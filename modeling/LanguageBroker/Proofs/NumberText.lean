import LanguageBroker.Json.Reader
import Mathlib.Data.List.Basic

/-!
How numbers are read. A number is read no further than a comma or a closing bracket, so it is read
in an array or an object as it is read alone. The digits of a whole number are read as that number,
and no number's text holds white space.
-/

namespace LanguageBroker.Json

variable {c : Char} {cs rest : List Char}

/-- Can this text follow a value inside a compact text? -/
def Ends : List Char → Prop
  | [] => True
  | c :: _ => c = ',' ∨ c = ']' ∨ c = '}'

/-- What was read, in front of more text. -/
def before (rest : List Char) (p : Json × List Char) : Json × List Char := (p.1, p.2 ++ rest)

theorem Ends.digitValue? (h : Ends (c :: rest)) : digitValue? c = none := by
  rcases h with rfl | rfl | rfl <;> rfl

theorem spanDigits_append (h : Ends rest) (cs : List Char) :
    spanDigits (cs ++ rest) = ((spanDigits cs).1, (spanDigits cs).2 ++ rest) := by
  induction cs with
  | nil =>
    cases rest with
    | nil => rfl
    | cons c rest => simp [spanDigits, h.digitValue?]
  | cons c cs ih =>
    simp only [spanDigits, Prod.mk.injEq] at ih
    cases value : digitValue? c with
    | none => simp [spanDigits, value]
    | some d => simp [spanDigits, value, ih.1, ih.2]

theorem exponentSign_append (h : Ends rest) (cs : List Char) :
    exponentSign (cs ++ rest) = ((exponentSign cs).1, (exponentSign cs).2 ++ rest) := by
  rcases cs with _ | ⟨c, cs⟩
  · rcases rest with _ | ⟨c, rest⟩
    · rfl
    · rcases h with rfl | rfl | rfl <;> rfl
  · by_cases plus : c = '+'
    · subst plus
      rfl
    by_cases minus : c = '-'
    · subst minus
      rfl
    · simp [exponentSign, plus, minus]

theorem exponentPart_append (h : Ends rest) (negative : Bool) (significand : Nat) (exponent : Int)
    (cs : List Char) :
    exponentPart negative significand exponent (cs ++ rest) =
      (exponentPart negative significand exponent cs).map (before rest) := by
  simp only [exponentPart, exponentSign_append h, spanDigits_append h]
  split
  · rfl
  split
  · split <;> rfl
  · cases Decimal.ofScaled negative significand
      (if (exponentSign cs).1 then exponent - _ else exponent + _) <;> rfl

theorem scaledPart_append (h : Ends rest) (negative : Bool) (significand : Nat) (exponent : Int)
    (cs : List Char) :
    scaledPart negative significand exponent (cs ++ rest) =
      (scaledPart negative significand exponent cs).map (before rest) := by
  rcases cs with _ | ⟨c, cs⟩
  · rcases rest with _ | ⟨c, rest⟩
    · simp [scaledPart, before, Function.comp_def]
    · rcases h with rfl | rfl | rfl <;> simp [scaledPart, before, Function.comp_def]
  · by_cases small : c = 'e'
    · subst small
      exact exponentPart_append h ..
    by_cases big : c = 'E'
    · subst big
      exact exponentPart_append h ..
    · simp [scaledPart, small, big, before, Function.comp_def]

theorem fractionPart_append (h : Ends rest) (negative : Bool) (whole : Digits) (cs : List Char) :
    fractionPart negative whole (cs ++ rest) =
      (fractionPart negative whole cs).map (before rest) := by
  rcases cs with _ | ⟨c, cs⟩
  · rcases rest with _ | ⟨c, rest⟩
    · simp [fractionPart, before, Function.comp_def]
    · rcases h with rfl | rfl | rfl <;> simp [fractionPart, before, Function.comp_def]
  · by_cases point : c = '.'
    · subst point
      simp only [fractionPart, List.cons_append, spanDigits_append h]
      split
      · rfl
      · exact scaledPart_append h ..
    by_cases small : c = 'e'
    · subst small
      exact exponentPart_append h ..
    by_cases big : c = 'E'
    · subst big
      exact exponentPart_append h ..
    · simp [fractionPart, point, small, big, before, Function.comp_def]

/-- A number that does not start with zero. -/
theorem number_of_ne_zero (negative : Bool) (other : ∀ r, cs ≠ '0' :: r) :
    number negative cs =
      if (spanDigits cs).1.isEmpty then none
      else
        fractionPart negative ((spanDigits cs).1.foldl Digits.push ⟨0, 0⟩) (spanDigits cs).2 := by
  unfold number
  split
  · exact absurd rfl (other _)
  · rfl

-- Each part of a number ends at the first character that it cannot use, and what ends a value is of
-- no use to any of them.

/-- A number is read no further than what ends a value. -/
theorem number_append (h : Ends rest) (negative : Bool) (cs : List Char) :
    number negative (cs ++ rest) = (number negative cs).map (before rest) := by
  rcases cs with _ | ⟨c, cs⟩
  · rcases rest with _ | ⟨c, rest⟩
    · rfl
    · rcases h with rfl | rfl | rfl <;> rfl
  by_cases zero : c = '0'
  · subst zero
    have fraction := fractionPart_append h negative ⟨0, 0⟩ cs
    rcases cs with _ | ⟨d, cs⟩
    · rcases rest with _ | ⟨e, rest⟩
      · exact fraction
      · simp only [List.cons_append, List.nil_append, number, h.digitValue?] at fraction ⊢
        exact fraction
    · simp only [List.cons_append, number] at fraction ⊢
      split
      · rfl
      · exact fraction
  · rw [number_of_ne_zero negative (by simp [zero]), number_of_ne_zero negative (by simp [zero]),
      spanDigits_append h]
    split
    · rfl
    · exact fractionPart_append h ..

theorem digitValue?_of_isDigit (h : c.isDigit) : digitValue? c = some (c.toNat - 48) :=
  if_pos (by simpa [Char.isDigit, Char.le_def] using h)

theorem spanDigits_of_digits (h : ∀ c ∈ cs, c.isDigit) :
    spanDigits cs = (cs.map fun c => c.toNat - 48, []) := by
  induction cs with
  | nil => rfl
  | cons c cs ih =>
    have value := digitValue?_of_isDigit (h c List.mem_cons_self)
    have tail := ih fun d there => h d (List.mem_cons_of_mem c there)
    simp only [spanDigits, Prod.mk.injEq] at tail
    simp [spanDigits, value, tail.1, tail.2]

theorem le_ofDigitChars (cs : List Char) (init : Nat) : init ≤ Nat.ofDigitChars 10 cs init := by
  rw [Nat.ofDigitChars_eq_ofDigitChars_zero]
  exact Nat.le_add_right_of_le (Nat.le_mul_of_pos_left init (Nat.pow_pos (by omega)))

theorem push_digits (cs : List Char) {init : Nat}
    (small : Nat.ofDigitChars 10 cs init < significandBound) :
    (cs.map fun c => c.toNat - 48).foldl Digits.push ⟨init, 0⟩ =
      ⟨Nat.ofDigitChars 10 cs init, 0⟩ := by
  induction cs generalizing init with
  | nil => simp
  | cons c cs ih =>
    rw [Nat.ofDigitChars_cons, Nat.mul_comm] at small ⊢
    have fits : init * 10 + (c.toNat - 48) < significandBound :=
      Nat.lt_of_le_of_lt (le_ofDigitChars cs _) small
    rw [List.map_cons, List.foldl_cons, Digits.push, if_pos ⟨rfl, fits⟩]
    exact ih small

/-- Only zero starts with zero. -/
theorem toDigits_ne_zero_cons {n : Nat} (positive : 0 < n) (r : List Char) :
    Nat.toDigits 10 n ≠ '0' :: r := by
  induction n using Nat.strongRecOn generalizing r with
  | _ n ih =>
    rcases Nat.lt_or_ge n 10 with small | large
    · rw [Nat.toDigits_of_lt_base small]
      intro same
      have zero := Nat.digitChar_eq_zero.1 (List.cons.inj same).1
      omega
    · rw [Nat.toDigits_of_base_le (by omega) large]
      intro same
      rcases List.append_eq_cons_iff.1 same with ⟨none, -⟩ | ⟨r', front, -⟩
      · exact Nat.toDigits_ne_nil none
      · exact ih (n / 10) (by omega) (by omega) r' front

/-- The digits of a number that fits 64 bits are read as that number. -/
theorem number_toDigits (negative : Bool) {n : Nat} (small : n < significandBound) :
    number negative (Nat.toDigits 10 n) =
      (Digits.value? negative ⟨n, 0⟩).map fun v => (v, []) := by
  rcases Nat.eq_zero_or_pos n with rfl | positive
  · rfl
  · have digits : ∀ c ∈ Nat.toDigits 10 n, c.isDigit := fun c there =>
      Nat.isDigit_of_mem_toDigits (by omega) (by omega) there
    have push := push_digits (Nat.toDigits 10 n)
      (by rwa [Nat.ofDigitChars_ten_toDigits])
    rw [number_of_ne_zero negative (toDigits_ne_zero_cons positive), spanDigits_of_digits digits]
    dsimp only
    rw [push, Nat.ofDigitChars_ten_toDigits, if_neg (by simp [Nat.toDigits_ne_nil])]
    rfl

theorem chars_int (n : Int) :
    (toString n).toList =
      if 0 ≤ n then Nat.toDigits 10 n.toNat else '-' :: Nat.toDigits 10 (-n).toNat := by
  rw [Int.toString_eq_repr, Int.repr_eq_if]
  split
  · exact Nat.toList_repr
  · rw [String.toList_append, Nat.toList_repr]
    rfl

/-- Text without white space. -/
def Solid (cs : List Char) : Prop := ∀ c ∈ cs, isSpace c = false

@[simp] theorem solid_nil : Solid [] := by simp [Solid]

@[simp] theorem solid_cons : Solid (c :: cs) ↔ isSpace c = false ∧ Solid cs := List.forall_mem_cons

@[simp] theorem solid_append : Solid (cs ++ rest) ↔ Solid cs ∧ Solid rest := List.forall_mem_append

theorem Solid.of_subset (h : Solid cs) (part : rest ⊆ cs) : Solid rest := fun c there =>
  h c (part there)

theorem solid_toDigits (n : Nat) : Solid (Nat.toDigits 10 n) := by
  intro c there
  have digit : c.isDigit := Nat.isDigit_of_mem_toDigits (by omega) (by omega) there
  rw [isSpace, Bool.eq_false_iff]
  intro space
  simp only [Bool.or_eq_true, decide_eq_true_eq] at space
  rcases space with ((rfl | rfl) | rfl) | rfl <;> simp at digit

theorem solid_int (n : Int) : Solid (toString n).toList := by
  rw [chars_int]
  split
  · exact solid_toDigits _
  · exact solid_cons.2 ⟨rfl, solid_toDigits _⟩

/-- A decimal's text holds no white space. -/
theorem solid_text (x : Decimal) : Solid x.text.toList := by
  have digits := solid_toDigits x.digits
  have front (n : Nat) := digits.of_subset (List.take_subset n _)
  have back (n : Nat) := digits.of_subset (List.drop_subset n _)
  have zeros (n : Nat) : Solid (List.replicate n '0') := by
    intro c there
    rw [(List.mem_replicate.1 there).2]
    rfl
  have marks : isSpace '-' = false ∧ isSpace '+' = false ∧ isSpace '.' = false ∧
      isSpace 'e' = false ∧ isSpace '0' = false := ⟨rfl, rfl, rfl, rfl, rfl⟩
  have signed {body : List Char} (solid : Solid body) :
      Solid (if x.negative then '-' :: body else body) := by
    split <;> simp [marks, solid]
  rw [Decimal.text, String.toList_ofList]
  apply signed
  dsimp only
  split
  · simp [marks]
  split
  · simp [marks, digits, zeros]
  split
  · simp [marks, front, back]
  split
  · simp [marks, digits, zeros]
  · have power : Solid
        ((if (Nat.toDigits 10 x.digits).length + x.exponent > 0 then ['+'] else []) ++
          (toString ((Nat.toDigits 10 x.digits).length + x.exponent - 1)).toList) := by
      refine solid_append.2 ⟨?_, solid_int _⟩
      split <;> simp [marks]
    split
    · next d is =>
      rw [is] at digits
      exact solid_cons.2 ⟨(solid_cons.1 digits).1, solid_cons.2 ⟨rfl, power⟩⟩
    · next d rest is =>
      rw [is] at digits
      obtain ⟨first, others⟩ := solid_cons.1 digits
      exact solid_cons.2 ⟨first, solid_cons.2 ⟨rfl, solid_append.2
        ⟨others, solid_cons.2 ⟨rfl, power⟩⟩⟩⟩
    · exact solid_cons.2 ⟨rfl, solid_nil⟩

theorem spanDigits_subset (cs : List Char) : (spanDigits cs).2 ⊆ cs :=
  (List.dropWhile_suffix _).subset

theorem exponentSign_subset (cs : List Char) : (exponentSign cs).2 ⊆ cs := by
  unfold exponentSign
  split
  · exact List.subset_cons_self ..
  · exact List.subset_cons_self ..
  · exact fun _ => id

variable {v : Json} {r : List Char}

theorem exponentPart_subset {negative : Bool} {significand : Nat} {exponent : Int}
    (reads : exponentPart negative significand exponent cs = some (v, r)) : r ⊆ cs := by
  have behind : (spanDigits (exponentSign cs).2).2 ⊆ cs :=
    List.Subset.trans (spanDigits_subset _) (exponentSign_subset cs)
  simp only [exponentPart] at reads
  split at reads
  · simp at reads
  split at reads
  · split at reads
    · simp at reads
    · simp only [Option.pure_def, Option.some.injEq, Prod.mk.injEq] at reads
      exact reads.2 ▸ behind
  · obtain ⟨x, -, reads⟩ := Option.bind_eq_some_iff.1 reads
    simp only [Option.pure_def, Option.some.injEq, Prod.mk.injEq] at reads
    exact reads.2 ▸ behind

theorem scaledPart_subset {negative : Bool} {significand : Nat} {exponent : Int}
    (reads : scaledPart negative significand exponent cs = some (v, r)) : r ⊆ cs := by
  unfold scaledPart at reads
  split at reads
  · exact List.Subset.trans (exponentPart_subset reads) (List.subset_cons_self ..)
  · exact List.Subset.trans (exponentPart_subset reads) (List.subset_cons_self ..)
  · obtain ⟨x, -, same⟩ := Option.map_eq_some_iff.1 reads
    exact (Prod.mk.inj same).2 ▸ fun _ => id

theorem fractionPart_subset {negative : Bool} {whole : Digits}
    (reads : fractionPart negative whole cs = some (v, r)) : r ⊆ cs := by
  unfold fractionPart at reads
  split at reads
  · dsimp only at reads
    split at reads
    · simp at reads
    · exact List.Subset.trans (scaledPart_subset reads)
        (List.Subset.trans (spanDigits_subset _) (List.subset_cons_self ..))
  · exact List.Subset.trans (exponentPart_subset reads) (List.subset_cons_self ..)
  · exact List.Subset.trans (exponentPart_subset reads) (List.subset_cons_self ..)
  · obtain ⟨x, -, same⟩ := Option.map_eq_some_iff.1 reads
    exact (Prod.mk.inj same).2 ▸ fun _ => id

/-- What a number leaves is text behind it. -/
theorem number_subset {negative : Bool} (reads : number negative cs = some (v, r)) : r ⊆ cs := by
  unfold number at reads
  split at reads
  · split at reads
    · split at reads
      · simp at reads
      · exact List.Subset.trans (fractionPart_subset reads) (List.subset_cons_self ..)
    · exact List.Subset.trans (fractionPart_subset reads) (List.subset_cons_self ..)
  · dsimp only at reads
    split at reads
    · simp at reads
    · exact List.Subset.trans (fractionPart_subset reads) (spanDigits_subset _)

end LanguageBroker.Json
