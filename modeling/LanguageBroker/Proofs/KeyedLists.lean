import Mathlib.Data.List.Basic

/-!
Lists of values under keys, where the first entry of a key counts. Entries are taken out by their
keys, and what stays is found as before.
-/

namespace LanguageBroker

variable {α β : Type} [BEq α] [LawfulBEq α]

theorem lookup_filter_key (keep : α → Bool) (entries : List (α × β)) (key : α) :
    (entries.filter fun e => keep e.1).lookup key =
      if keep key then entries.lookup key else none := by
  induction entries with
  | nil => simp
  | cons e entries ih =>
    obtain ⟨k, value⟩ := e
    by_cases same : key = k
    · subst same
      by_cases stays : keep key
      · simp [stays]
      · simpa [stays] using ih
    · have apart : (key == k) = false := beq_false_of_ne same
      rw [List.lookup_cons, apart, List.filter_cons]
      split
      · rw [List.lookup_cons, apart, ih]
      · exact ih

/-- Under distinct keys each value is found where it was put. -/
theorem lookup_zip {keys : List α} {values : List β} (distinct : keys.Nodup) {i : Nat} {key : α}
    (place : keys[i]? = some key) : (keys.zip values).lookup key = values[i]? := by
  induction keys generalizing values i with
  | nil => simp at place
  | cons k keys ih =>
    obtain ⟨fresh, distinct⟩ := List.nodup_cons.1 distinct
    cases values with
    | nil => simp
    | cons value values =>
      cases i with
      | zero =>
        obtain rfl := Option.some.inj place
        simp
      | succ i =>
        have later : keys[i]? = some key := place
        have apart : key ≠ k := fun same => fresh (same ▸ List.mem_of_getElem? later)
        rw [List.zip_cons_cons, List.lookup_cons, beq_false_of_ne apart]
        exact ih distinct later

end LanguageBroker
