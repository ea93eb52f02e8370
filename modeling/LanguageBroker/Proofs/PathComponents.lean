import LanguageBroker.Path
import LanguageBroker.Proofs.EncodedText
import Mathlib.Data.List.TakeWhile

/-!
Components of absolute paths. What stands before a separator and what stands behind it give their
components independently, so separators that are repeated or stand at the end make no difference.
In texts these are slashes, and one end of a text can be stripped of them.
-/

namespace LanguageBroker

namespace Path

/-- The stretches between separators that count as components. -/
def names (bytes : List UInt8) : List (List UInt8) :=
  (segments bytes).filter fun s => !s.isEmpty && s != [dot]

theorem components_absolute (bytes : List UInt8) :
    components ⟨separator :: bytes⟩ = [] :: names bytes := by
  simp [components, isAbsolute, segments, names]

theorem segments_ne_nil (bytes : List UInt8) : segments bytes ≠ [] := by
  induction bytes with
  | nil => simp [segments]
  | cons b bytes ih =>
    unfold segments
    split
    · simp
    · split <;> simp

theorem segments_append (front back : List UInt8) :
    segments (front ++ separator :: back) = segments front ++ segments back := by
  induction front with
  | nil => simp [segments]
  | cons b front ih =>
    simp only [List.cons_append, segments, ih]
    split
    · rfl
    · cases shown : segments front with
      | nil => exact absurd shown (segments_ne_nil front)
      | cons s ss => rfl

@[simp] theorem names_nil : names [] = [] := rfl

theorem names_append (front back : List UInt8) :
    names (front ++ separator :: back) = names front ++ names back := by
  rw [names, segments_append, List.filter_append]
  rfl

theorem names_append_separators (front : List UInt8) (n : Nat) :
    names (front ++ List.replicate n separator) = names front := by
  induction n with
  | zero => simp
  | succ n ih =>
    rw [List.replicate_succ', ← List.append_assoc, names_append, ih, names_nil, List.append_nil]

theorem names_separators (n : Nat) : names (List.replicate n separator) = [] :=
  names_append_separators [] n

/-- A root can be named without the separators at its end, and the topmost one by nothing at all. -/
theorem startsWith_append_separators {bytes root : List UInt8} {n : Nat}
    (absolute : (root ++ List.replicate n separator).head? = some separator) :
    startsWith ⟨separator :: bytes⟩ ⟨root ++ List.replicate n separator⟩
      = startsWith ⟨separator :: bytes⟩ ⟨root⟩ := by
  cases root with
  | nil =>
    cases n with
    | zero => rfl
    | succ n =>
      have nothing : components ⟨[]⟩ = [] := rfl
      simp [startsWith, List.replicate_succ, components_absolute, names_separators, nothing]
  | cons b root =>
    obtain rfl : b = separator := by simpa using absolute
    simp only [startsWith, List.cons_append, components_absolute, names_append_separators]

end Path

namespace Text

theorem encode_slash : encodeChar '/' = [Path.separator] := rfl

theorem encode_slashes (n : Nat) :
    encode (List.replicate n '/') = List.replicate n Path.separator := by
  induction n with
  | zero => rfl
  | succ n ih => rw [List.replicate_succ, encode_cons, ih, encode_slash]; rfl

theorem stripFront_append (head cs : List Char) : stripFront head (head ++ cs) = some cs := by
  induction head with
  | nil => rfl
  | cons c head ih => simp [stripFront, ih]

theorem eq_append_of_stripFront {head cs rest : List Char} (found : stripFront head cs = some rest) :
    cs = head ++ rest := by
  induction head generalizing cs with
  | nil => simpa [stripFront] using found
  | cons h head ih =>
    cases cs with
    | nil => simp [stripFront] at found
    | cons c cs =>
      simp only [stripFront] at found
      split at found
      · next same => rw [same, ih found, List.cons_append]
      · simp at found

theorem stripBack_append (cs tail : List Char) : stripBack tail (cs ++ tail) = some cs := by
  rw [stripBack, List.reverse_append, stripFront_append, Option.map_some, List.reverse_reverse]

/-- What is left without the slashes at the back. -/
theorem exists_slashes (cs : List Char) :
    ∃ n, cs = (cs.reverse.dropWhile (· = '/')).reverse ++ List.replicate n '/' := by
  refine ⟨(cs.reverse.takeWhile (· = '/')).length, ?_⟩
  have slashes : cs.reverse.takeWhile (· = '/')
      = List.replicate (cs.reverse.takeWhile (· = '/')).length '/' := by
    rw [List.eq_replicate_iff]
    exact ⟨rfl, fun c here => by simpa using List.mem_takeWhile_imp here⟩
  rw [← List.reverse_replicate, ← slashes, ← List.reverse_append, List.takeWhile_append_dropWhile,
    List.reverse_reverse]

end Text

end LanguageBroker
