import LanguageBroker.Proofs.Dialogue
import LanguageBroker.Protocol.Places

/-!
Values that are read twice. Reading brings a value into a normal form, and what is in that form
is read as it stands, as long as its URIs are: a URI is written as a text that need not be read as
the same URI again. This holds for the shapes of plain records, of which each member is required or
may be missing.
-/

namespace LanguageBroker

/-- The text is that of the URI it is read as. -/
def Uri.IsSettled (text : String) : Prop := (Uri.parse? text).map Uri.text = some text

instance (text : String) : Decidable (Uri.IsSettled text) := inferInstanceAs (Decidable (_ = _))

namespace Json

theorem lookup_foldl_insertMember (key : String) {ms : List (String × Json)}
    (front : List (String × Json)) (distinct : (ms.map Prod.fst).Nodup) :
    (ms.foldl (fun acc m => insertMember m.1 m.2 acc) front).lookup key
      = (ms.lookup key).or (front.lookup key) := by
  induction ms generalizing front with
  | nil => rfl
  | cons m ms ih =>
    obtain ⟨k, v⟩ := m
    obtain ⟨fresh, distinct⟩ := List.nodup_cons.1 distinct
    rw [List.foldl_cons, ih _ distinct, lookup_insertMember]
    by_cases same : key = k
    · have later : ms.lookup key = none := by
        refine List.lookup_eq_none_iff.2 fun m there => ?_
        have apart : m.1 ≠ k := fun taken => fresh (taken ▸ List.mem_map.2 ⟨m, there, rfl⟩)
        simpa [same] using Ne.symm apart
      simp [same, same ▸ later]
    · simp [List.lookup_cons, same, beq_false_of_ne]

end Json

namespace Shape

/-- The values of the shape are written as they stand. -/
def Keeps (shape : Shape) : Prop := ∀ v w, read shape v = some w → w = v

/-- Records of plain values, with members that are required or may be missing. -/
inductive IsPlain : Shape → Prop
  | kept {shape : Shape} (keeps : Keeps shape) : IsPlain shape
  | uri : IsPlain .uri
  | list {item : Shape} (plain : IsPlain item) : IsPlain (.list item)
  | record {members : List (String × Need × Shape)} (distinct : (members.map Prod.fst).Nodup)
      (needs : ∀ m ∈ members, m.2.1 = .required ∨ m.2.1 = .optional)
      (plain : ∀ m ∈ members, IsPlain m.2.2) : IsPlain (.record members)

theorem keeps_any : Keeps .any := fun _ _ known => (Option.some.inj known).symm

theorem keeps_text : Keeps .text := by
  intro v w known
  cases v with
  | str s => exact (Option.some.inj known).symm
  | _ => simp [read] at known

theorem keeps_whole (signed : Bool) : Keeps (.whole signed) := by
  intro v w known
  cases v with
  | int n =>
    simp only [read, Option.ite_none_right_eq_some, Option.some.injEq] at known
    exact known.2.symm
  | _ => simp [read] at known

/-- What either of two shapes keeps, their choice keeps. -/
theorem keeps_choice {options : List Shape} (each : ∀ shape ∈ options, Keeps shape) :
    Keeps (.choice options) := by
  intro v w known
  rw [read] at known
  induction options with
  | nil => simp [readFirst] at known
  | cons shape rest ih =>
    rw [readFirst] at known
    split at known
    · next first => exact Option.some.inj known ▸ each shape (by simp) _ _ first
    · exact ih (fun shape there => each shape (by simp [there])) known

mutual

/-- The URIs of a value in normal form. -/
def uris : Shape → Json → List String
  | .uri, .str s => [s]
  | .list item, .arr items => items.flatMap fun v => uris item v
  | .record members, .obj own => memberUris members own
  | _, _ => []

def memberUris : List (String × Need × Shape) → List (String × Json) → List String
  | [], _ => []
  | (name, _, shape) :: rest, own =>
    ((own.lookup name).map fun v => uris shape v).getD [] ++ memberUris rest own

end

variable {shape : Shape} {v w : Json} {members : List (String × Need × Shape)}
  {ms own : List (String × Json)}

/-- What was read of the members of a record: each has its value, or is left out. -/
inductive Wrote : List (String × Need × Shape) → List (String × Json) → Prop
  | nil : Wrote [] []
  | present {name : String} {need : Need} {shape : Shape} {v w : Json}
      {rest : List (String × Need × Shape)} {ms : List (String × Json)}
      (read : read shape v = some w) (shown : need = .optional → v ≠ .null)
      (others : Wrote rest ms) :
      Wrote ((name, need, shape) :: rest) ((name, w) :: ms)
  | absent {name : String} {shape : Shape} {rest : List (String × Need × Shape)}
      {ms : List (String × Json)} (others : Wrote rest ms) :
      Wrote ((name, .optional, shape) :: rest) ms

theorem readMembers_required (name : String) (shape : Shape) :
    readMembers ((name, .required, shape) :: members) own =
      (readMembers members own).bind fun others =>
        (own.lookup name).bind fun v => (read shape v).map fun w => (name, w) :: others := by
  rw [readMembers]
  cases readMembers members own <;> cases own.lookup name <;> rfl

/-- A member that may be missing is so where it is null. -/
theorem readMembers_optional (name : String) (shape : Shape) :
    readMembers ((name, .optional, shape) :: members) own =
      (readMembers members own).bind fun others =>
        match (own.lookup name).filter (!·.isNull) with
        | none => some others
        | some v => (read shape v).map fun w => (name, w) :: others := by
  rw [readMembers]
  cases readMembers members own with
  | none => rfl
  | some others =>
    cases own.lookup name with
    | none => rfl
    | some v => cases v <;> rfl

theorem readInOrder_required (name : String) (shape : Shape) (v : Json) (values : List Json) :
    readInOrder ((name, .required, shape) :: members) (v :: values) =
      (readInOrder members values).bind fun others =>
        (read shape v).map fun w => (name, w) :: others := by
  rw [readInOrder]
  cases readInOrder members values <;> rfl

theorem readInOrder_optional (name : String) (shape : Shape) (v : Json) (values : List Json) :
    readInOrder ((name, .optional, shape) :: members) (v :: values) =
      (readInOrder members values).bind fun others =>
        if v.isNull then some others else (read shape v).map fun w => (name, w) :: others := by
  rw [readInOrder]
  cases readInOrder members values with
  | none => rfl
  | some others => cases v <;> rfl

theorem not_isNull_iff {v : Json} : (!v.isNull) = true ↔ v ≠ .null := by
  cases v <;> simp [Json.isNull]

theorem wrote_of_readMembers (needs : ∀ m ∈ members, m.2.1 = .required ∨ m.2.1 = .optional)
    (known : readMembers members own = some ms) : Wrote members ms := by
  induction members generalizing ms with
  | nil =>
    obtain rfl : [] = ms := by simpa [readMembers] using known
    exact .nil
  | cons m rest ih =>
    obtain ⟨name, need, shape⟩ := m
    have later {ms : List (String × Json)} :=
      @ih ms fun m there => needs m (List.mem_cons_of_mem _ there)
    rcases needs (name, need, shape) List.mem_cons_self with rfl | rfl
    · rw [readMembers_required] at known
      obtain ⟨others, wrote, known⟩ := Option.bind_eq_some_iff.1 known
      obtain ⟨v, -, known⟩ := Option.bind_eq_some_iff.1 known
      obtain ⟨w, read, rfl⟩ := Option.map_eq_some_iff.1 known
      exact .present read (by simp) (later wrote)
    · rw [readMembers_optional] at known
      obtain ⟨others, wrote, known⟩ := Option.bind_eq_some_iff.1 known
      split at known
      · obtain rfl := Option.some.inj known
        exact .absent (later wrote)
      · next v held =>
        obtain ⟨w, read, rfl⟩ := Option.map_eq_some_iff.1 known
        have shown := not_isNull_iff.1 (Option.filter_eq_some_iff.1 held).2
        exact .present read (fun _ => shown) (later wrote)

theorem wrote_of_readInOrder (needs : ∀ m ∈ members, m.2.1 = .required ∨ m.2.1 = .optional)
    {values : List Json} (known : readInOrder members values = some ms) : Wrote members ms := by
  induction members generalizing ms values with
  | nil =>
    cases values with
    | nil =>
      obtain rfl : [] = ms := by simpa [readInOrder] using known
      exact .nil
    | cons v values => simp [readInOrder] at known
  | cons m rest ih =>
    obtain ⟨name, need, shape⟩ := m
    have later {ms : List (String × Json)} {values : List Json} :=
      @ih ms (fun m there => needs m (List.mem_cons_of_mem _ there)) values
    have need_cases := needs (name, need, shape) List.mem_cons_self
    cases values with
    | nil => rcases need_cases with rfl | rfl <;> simp [readInOrder] at known
    | cons v values =>
      rcases need_cases with rfl | rfl
      · rw [readInOrder_required] at known
        obtain ⟨others, wrote, known⟩ := Option.bind_eq_some_iff.1 known
        obtain ⟨w, read, rfl⟩ := Option.map_eq_some_iff.1 known
        exact .present read (by simp) (later wrote)
      · rw [readInOrder_optional] at known
        obtain ⟨others, wrote, known⟩ := Option.bind_eq_some_iff.1 known
        split at known
        · obtain rfl := Option.some.inj known
          exact .absent (later wrote)
        · next shown =>
          obtain ⟨w, read, rfl⟩ := Option.map_eq_some_iff.1 known
          exact .present read (fun _ => not_isNull_iff.1 (by simpa using shown)) (later wrote)

/-- A record may also be written as a list of its values. -/
theorem wrote_of_read (needs : ∀ m ∈ members, m.2.1 = .required ∨ m.2.1 = .optional)
    (known : read (.record members) v = some w) : ∃ ms, Wrote members ms ∧ w = Json.object ms := by
  cases v with
  | obj own =>
    simp only [read, Option.map_eq_some_iff] at known
    obtain ⟨ms, known, rfl⟩ := known
    exact ⟨ms, wrote_of_readMembers needs known, rfl⟩
  | arr values =>
    simp only [read, Option.map_eq_some_iff] at known
    obtain ⟨ms, known, rfl⟩ := known
    exact ⟨ms, wrote_of_readInOrder needs known, rfl⟩
  | _ => simp [read] at known

/-- Nothing that is there is written as null. -/
theorem IsPlain.ne_null (plain : IsPlain shape) (known : read shape v = some w)
    (shown : v ≠ .null) : w ≠ .null := by
  cases plain with
  | kept keeps => exact keeps v w known ▸ shown
  | uri =>
    cases v with
    | str s =>
      obtain ⟨u, -, rfl⟩ := Option.map_eq_some_iff.1 known
      simp
    | _ => simp [read] at known
  | list =>
    cases v with
    | arr items =>
      simp only [read, Option.map_eq_some_iff] at known
      obtain ⟨ws, -, rfl⟩ := known
      simp
    | _ => simp [read] at known
  | record =>
    cases v with
    | obj | arr =>
      simp only [read, Option.map_eq_some_iff] at known
      obtain ⟨ms, -, rfl⟩ := known
      simp [Json.object]
    | _ => simp [read] at known

namespace Wrote

/-- Only members of the record are written. -/
theorem names (h : Wrote members ms) : (ms.map Prod.fst).Sublist (members.map Prod.fst) := by
  induction h with
  | nil => exact .slnil
  | present _ _ _ ih => exact ih.cons_cons _
  | absent _ ih => exact ih.cons _

theorem lookup_eq_none (h : Wrote members ms) {name : String}
    (fresh : name ∉ members.map Prod.fst) : ms.lookup name = none := by
  refine List.lookup_eq_none_iff.2 fun m there => ?_
  have apart : m.1 ≠ name := fun same =>
    fresh (h.names.subset (List.mem_map.2 ⟨m, there, same⟩))
  simpa using Ne.symm apart

/-- Values that are read as themselves make up a record that is. -/
theorem readMembers (h : Wrote members ms) (distinct : (members.map Prod.fst).Nodup)
    (plain : ∀ m ∈ members, IsPlain m.2.2)
    (again : ∀ m ∈ members, ∀ v w, read m.2.2 v = some w → ms.lookup m.1 = some w →
      read m.2.2 w = some w)
    (held : ∀ m ∈ members, own.lookup m.1 = ms.lookup m.1)
    (needs : ∀ m ∈ members, m.2.1 = .required ∨ m.2.1 = .optional) :
    Shape.readMembers members own = some ms := by
  induction h with
  | nil => rfl
  | @absent name shape rest ms others ih =>
    obtain ⟨fresh, distinct⟩ := List.nodup_cons.1 distinct
    have later := ih distinct (fun m there => plain m (List.mem_cons_of_mem _ there))
      (fun m there => again m (List.mem_cons_of_mem _ there))
      (fun m there => held m (List.mem_cons_of_mem _ there))
      (fun m there => needs m (List.mem_cons_of_mem _ there))
    have none := (held _ List.mem_cons_self).trans (others.lookup_eq_none fresh)
    simp only at none
    simp [readMembers_optional, later, none]
  | @present name need shape v w rest ms known shown others ih =>
    obtain ⟨fresh, distinct⟩ := List.nodup_cons.1 distinct
    have behind {m : String × Need × Shape} (there : m ∈ rest) :
        ((name, w) :: ms).lookup m.1 = ms.lookup m.1 := by
      have apart : m.1 ≠ name := fun same => fresh (same ▸ List.mem_map.2 ⟨m, there, rfl⟩)
      simp [List.lookup_cons, beq_false_of_ne apart]
    have later := ih distinct (fun m there => plain m (List.mem_cons_of_mem _ there))
      (fun m there v w known found =>
        again m (List.mem_cons_of_mem _ there) v w known ((behind there).trans found))
      (fun m there => (held m (List.mem_cons_of_mem _ there)).trans (behind there))
      (fun m there => needs m (List.mem_cons_of_mem _ there))
    have found : ((name, w) :: ms).lookup name = some w := by simp
    have here := (held _ List.mem_cons_self).trans found
    have same := again _ List.mem_cons_self v w known found
    simp only at here same
    rcases needs _ List.mem_cons_self with is | is <;> obtain rfl := is
    · simp [readMembers_required, later, here, same]
    · have kept := (plain _ List.mem_cons_self).ne_null known (shown rfl)
      have visible := not_isNull_iff.2 kept
      simp [readMembers_optional, later, here, same, Option.filter, visible]

end Wrote

/-- A URI in a member is one of the record's. -/
theorem uris_subset_memberUris {m : String × Need × Shape} (there : m ∈ members)
    (found : own.lookup m.1 = some w) : uris m.2.2 w ⊆ memberUris members own := by
  induction members with
  | nil => simp at there
  | cons k rest ih =>
    obtain ⟨name, need, shape⟩ := k
    rw [memberUris]
    rcases List.mem_cons.1 there with rfl | there
    · simp [found]
    · exact List.subset_append_of_subset_right _ (ih there)

theorem mapM_eq_some_again {f : α → Option β} {g : β → Option β} {xs : List α} {ys : List β}
    (known : xs.mapM f = some ys) (again : ∀ x ∈ xs, ∀ y ∈ ys, f x = some y → g y = some y) :
    ys.mapM g = some ys := by
  induction xs generalizing ys with
  | nil =>
    obtain rfl : [] = ys := by simpa using known
    rfl
  | cons x xs ih =>
    rw [List.mapM_cons] at known
    obtain ⟨y, first, known⟩ := Option.bind_eq_some_iff.1 known
    obtain ⟨others, rest, known⟩ := Option.bind_eq_some_iff.1 known
    obtain rfl := Option.some.inj known
    have later := ih rest fun x there y there' => again x (by simp [there]) y (by simp [there'])
    rw [List.mapM_cons, again x (by simp) y (by simp) first, later]
    rfl

/-- What was read is read as it stands, if its URIs are. -/
theorem IsPlain.read_again (plain : IsPlain shape) (known : read shape v = some w)
    (settled : ∀ s ∈ uris shape w, Uri.IsSettled s) : read shape w = some w := by
  induction plain generalizing v w with
  | kept keeps => exact (keeps v w known).symm ▸ known
  | uri =>
    cases v with
    | str s =>
      obtain ⟨u, -, rfl⟩ := Option.map_eq_some_iff.1 known
      have same := settled u.text (by simp [uris])
      rw [Uri.IsSettled, Option.map_eq_some_iff] at same
      obtain ⟨u', parsed, text⟩ := same
      simp [read, parsed, text]
    | _ => simp [read] at known
  | @list item plain ih =>
    cases v with
    | arr items =>
      simp only [read, Option.map_eq_some_iff] at known
      obtain ⟨ws, each, rfl⟩ := known
      have again := mapM_eq_some_again each fun v _ w there first =>
        ih first fun s inside => settled s (by simpa [uris] using ⟨w, there, inside⟩)
      simp [read, again]
    | _ => simp [read] at known
  | @record members distinct needs plain ih =>
    obtain ⟨ms, wrote, rfl⟩ := wrote_of_read needs known
    -- the object holds what was written, in another order
    have held (name : String) :
        (ms.foldl (fun acc m => Json.insertMember m.1 m.2 acc) []).lookup name
          = ms.lookup name := by
      simp [Json.lookup_foldl_insertMember name [] (wrote.names.nodup distinct)]
    simp only [Json.object, uris, read] at settled ⊢
    have again := wrote.readMembers distinct plain
      (fun m there v w first found => ih m there first fun s inside =>
        settled s (uris_subset_memberUris there ((held m.1).trans found) inside))
      (fun m _ => held m.1) needs
    rw [again]
    rfl

theorem IsPlain.diagnostics : IsPlain publishedDiagnostics := by
  have natural : IsPlain natural := .kept (keeps_whole _)
  have integer : IsPlain integer := .kept (keeps_whole _)
  have text : IsPlain .text := .kept keeps_text
  have numberOrText : IsPlain numberOrText :=
    .kept (keeps_choice (by simp [Shape.integer, keeps_whole, keeps_text]))
  have position : IsPlain position := .record (by decide) (by simp [must]) (by simp [must, natural])
  have range : IsPlain range := .record (by decide) (by simp [must]) (by simp [must, position])
  have location : IsPlain location :=
    .record (by decide) (by simp [must]) (by simp [must, range, IsPlain.uri])
  have related : IsPlain
      (.record [("location", .required, Shape.location), ("message", .required, .text)]) :=
    .record (by decide) (by simp) (by simp [location, text])
  have link : IsPlain (.record [("href", .required, .uri)]) :=
    .record (by decide) (by simp) (by simp [IsPlain.uri])
  have diagnostic : IsPlain diagnostic := .record (by decide) (by simp [must, may])
    (by simp [must, may, range, integer, numberOrText, link, text, related, IsPlain.list,
      IsPlain.kept keeps_any])
  exact .record (by decide) (by simp [must, may])
    (by simp [must, may, IsPlain.uri, diagnostic, IsPlain.list, integer])

end Shape

end LanguageBroker
