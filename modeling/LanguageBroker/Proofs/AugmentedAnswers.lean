import LanguageBroker.Middleware.Configuration
import LanguageBroker.Proofs.SettledShapes
import Mathlib.Data.String.Basic

/-!
What a server is told about settings. The editor's list is kept in its length and order, and in it
every value but those that answer a question for the broker's own section with an object or null.
Such an object gets up to two members, each from what is found out on its own, and keeps all
others. The surroundings may change from one question to the next; as long as they do not, telling
a server what it has been told already changes nothing.
-/

namespace LanguageBroker

namespace Json

variable {key k l : String} {v w : Json} {ms front : List (String × Json)}

/-- A member that is put in again stays where it is. -/
theorem insertMember_again (k : String) (v w : Json) (ms : List (String × Json)) :
    insertMember k v (insertMember k w ms) = insertMember k v ms := by
  induction ms with
  | nil => simp [insertMember]
  | cons m ms ih =>
    obtain ⟨l, u⟩ := m
    by_cases before : k < l
    · simp [insertMember, before]
    · by_cases same : k = l
      · simp [insertMember, ← same]
      · simp [insertMember, before, same, ih]

/-- A member that is in place stays so when another one is put in. -/
theorem insertMember_of_other (inPlace : insertMember k v ms = ms) (other : l ≠ k) (w : Json) :
    insertMember k v (insertMember l w ms) = insertMember l w ms := by
  induction ms with
  | nil => simp [insertMember] at inPlace
  | cons m ms ih =>
    obtain ⟨a, u⟩ := m
    -- the member cannot stand before the first one, as the list would be longer then
    have behind : ¬ k < a := fun before => by
      have longer := congrArg List.length inPlace
      simp [insertMember, before] at longer
    by_cases before : l < a
    · have behind' : ¬ k < l := fun less => behind (less.trans before)
      rw [insertMember, if_pos before, insertMember, if_neg behind', if_neg other.symm, inPlace]
    · by_cases here : k = a
      · subst here
        have same : v = u := by simpa [insertMember] using inPlace
        simp [insertMember, before, other, same]
      · have later : insertMember k v ms = ms := by
          simpa [insertMember, behind, here] using inPlace
        by_cases there : l = a
        · simp [insertMember, there, behind, here, later]
        · simp [insertMember, before, there, behind, here, ih later]

/-- Members with different keys are all in place when they have been put in. -/
theorem insertMember_foldl (distinct : (ms.map Prod.fst).Nodup) {m : String × Json}
    (there : m ∈ ms) :
    insertMember m.1 m.2 (ms.foldl (fun acc m => insertMember m.1 m.2 acc) front)
      = ms.foldl (fun acc m => insertMember m.1 m.2 acc) front := by
  induction ms using List.reverseRecOn generalizing m with
  | nil => simp at there
  | append_singleton ms last ih =>
    rw [List.map_append, List.nodup_append] at distinct
    simp only [List.foldl_append, List.foldl_cons, List.foldl_nil]
    rcases List.mem_append.1 there with early | late
    · have apart : last.1 ≠ m.1 :=
        (distinct.2.2 m.1 (List.mem_map_of_mem early) last.1 (by simp)).symm
      exact insertMember_of_other (ih distinct.1 early) apart last.2
    · obtain rfl : m = last := by simpa using late
      exact insertMember_again ..

theorem foldl_insertMember_of_inPlace (inPlace : ∀ m ∈ ms, insertMember m.1 m.2 front = front) :
    ms.foldl (fun acc m => insertMember m.1 m.2 acc) front = front := by
  induction ms with
  | nil => rfl
  | cons m ms ih =>
    rw [List.foldl_cons, inPlace m List.mem_cons_self]
    exact ih fun n there => inPlace n (List.mem_cons_of_mem _ there)

theorem mem_keys_insertMember {b : String} (there : b ∈ (insertMember k v ms).map Prod.fst) :
    b = k ∨ b ∈ ms.map Prod.fst := by
  induction ms with
  | nil => simpa [insertMember] using there
  | cons m ms ih =>
    obtain ⟨a, u⟩ := m
    unfold insertMember at there
    split at there
    · simpa using there
    · split at there
      · next here => simpa [here] using there
      · rcases List.mem_cons.1 there with rfl | later
        · simp
        · exact (ih later).imp_right (List.mem_cons_of_mem _)

/-- The keys of an object stay in order. -/
theorem ascending_insertMember (ascending : (ms.map Prod.fst).Pairwise (· < ·)) :
    ((insertMember k v ms).map Prod.fst).Pairwise (· < ·) := by
  induction ms with
  | nil => simp [insertMember]
  | cons m ms ih =>
    obtain ⟨a, u⟩ := m
    obtain ⟨above, rest⟩ := List.pairwise_cons.1 ascending
    by_cases before : k < a
    · rw [insertMember, if_pos before]
      refine List.pairwise_cons.2 ⟨fun b there => ?_, ascending⟩
      rcases List.mem_cons.1 there with rfl | later
      · exact before
      · exact before.trans (above b later)
    · by_cases here : k = a
      · simpa [insertMember, here] using ascending
      · have behind : a < k := lt_of_le_of_ne (not_lt.1 before) (Ne.symm here)
        rw [insertMember, if_neg before, if_neg here]
        refine List.pairwise_cons.2 ⟨fun b there => ?_, ih rest⟩
        rcases mem_keys_insertMember there with rfl | later
        · exact behind
        · exact above b later

theorem ascending_foldl_insertMember (ascending : (front.map Prod.fst).Pairwise (· < ·)) :
    ((ms.foldl (fun acc m => insertMember m.1 m.2 acc) front).map Prod.fst).Pairwise (· < ·) := by
  induction ms generalizing front with
  | nil => exact ascending
  | cons m ms ih => exact ih (ascending_insertMember ascending)

end Json

namespace Configuration

variable {h : Host} {resource : Option Uri} {own told : List (String × Json)}

/-- The path of the interpreter, where one was resolved. -/
def interpreterPath? (h : Host) (resource : Option Uri) : Option String :=
  match h.interpreter resource with
  | .ok found => found.map (·.path)
  | .error _ => none

/-- The directories of modules, where the environment was read and lists any. -/
def directories? (h : Host) (resource : Option Uri) : Option String :=
  match h.environment resource with
  | .ok env => (env.value? Environment.modulePath).filter (· ≠ "")
  | .error _ => none

/-- The members of a section. Null counts as a section without any. -/
def section? : Json → Option (List (String × Json))
  | .null => some []
  | .obj own => some own
  | _ => none

/-- The answer in place `i` is that to a question for the broker's own section, with these
members. -/
structure IsOwn (items : List ConfigurationItem) (i : Nat) (value : Json)
    (item : ConfigurationItem) (own : List (String × Json)) : Prop where
  asked : items[i]? = some item
  name : item.name = some Settings.sectionName
  members : section? value = some own

/-- What a section's members become. -/
structure Extends (h : Host) (resource : Option Uri) (own told : List (String × Json)) : Prop where
  interpreter : told.lookup interpreterMember
    = ((interpreterPath? h resource).map .str).or (own.lookup interpreterMember)
  modules : told.lookup modulesMember
    = ((directories? h resource).map .str).or (own.lookup modulesMember)
  others : ∀ key, key ≠ interpreterMember → key ≠ modulesMember →
    told.lookup key = own.lookup key
  ascending : (own.map Prod.fst).Pairwise (· < ·) → (told.map Prod.fst).Pairwise (· < ·)

/-- Each member is added if what it holds was found out, whatever became of the other. -/
theorem additions_eq (h : Host) (resource : Option Uri) :
    additions h resource
      = ((interpreterPath? h resource).map fun path => (interpreterMember, .str path)).toList
        ++ ((directories? h resource).map fun list => (modulesMember, .str list)).toList := by
  refine congrArg₂ (· ++ ·) ?interpreter ?modules
  case interpreter =>
    unfold interpreterPath?
    rcases h.interpreter resource with _ | _ | _ <;> rfl
  case modules =>
    unfold directories? Host.modules Environment.modules
    rcases h.environment resource with _ | env
    · rfl
    · cases listed : env.value? Environment.modulePath with
      | none => simp [listed]
      | some list => by_cases empty : list = "" <;> simp [listed, Option.filter, empty]

theorem distinct_additions (h : Host) (resource : Option Uri) :
    ((additions h resource).map Prod.fst).Nodup := by
  have apart : interpreterMember ≠ modulesMember := by decide
  rw [additions_eq]
  cases interpreterPath? h resource <;> cases directories? h resource <;> simp [apart]

theorem lookup_toList (found : Option String) (name key : String) :
    (found.map fun text => (name, Json.str text)).toList.lookup key
      = if key = name then found.map .str else none := by
  cases found <;> by_cases same : key = name <;> simp [List.lookup_cons, same, beq_false_of_ne]

theorem lookup_additions (h : Host) (resource : Option Uri) (key : String) :
    (additions h resource).lookup key =
      if key = interpreterMember then (interpreterPath? h resource).map .str
      else if key = modulesMember then (directories? h resource).map .str
      else none := by
  have apart : interpreterMember ≠ modulesMember := by decide
  rw [additions_eq, List.lookup_append, lookup_toList, lookup_toList]
  by_cases first : key = interpreterMember
  · simp [first, apart]
  · simp [first]

/-- A section's members with what is added to them. -/
def extended (h : Host) (resource : Option Uri) (own : List (String × Json)) :
    List (String × Json) :=
  (additions h resource).foldl (fun acc m => Json.insertMember m.1 m.2 acc) own

theorem extends_extended (h : Host) (resource : Option Uri) (own : List (String × Json)) :
    Extends h resource own (extended h resource own) := by
  have apart : modulesMember ≠ interpreterMember := by decide
  have found (key : String) : (extended h resource own).lookup key
      = ((additions h resource).lookup key).or (own.lookup key) :=
    Json.lookup_foldl_insertMember key own (distinct_additions h resource)
  exact
    { interpreter := by simp [found, lookup_additions]
      modules := by simp [found, lookup_additions, apart]
      others := fun key first second => by simp [found, lookup_additions, first, second]
      ascending := Json.ascending_foldl_insertMember }

theorem augment_of_section {item : ConfigurationItem} {value : Json}
    (name : item.name = some Settings.sectionName) (members : section? value = some own) :
    augment h item value = .obj (extended h item.resource own) := by
  rw [augment, if_pos name]
  cases value with
  | null | obj =>
    obtain rfl := Option.some.inj members
    rfl
  | _ => simp [section?] at members

theorem augment_of_other {item : ConfigurationItem} {value : Json}
    (other : item.name = some Settings.sectionName → section? value = none) :
    augment h item value = value := by
  rw [augment]
  split
  · next name =>
    have none := other name
    cases value with
    | null | obj => simp [section?] at none
    | _ => rfl
  · rfl

/-- Answers that have been added to stay as they are. -/
theorem augment_augment (h : Host) (item : ConfigurationItem) (value : Json) :
    augment h item (augment h item value) = augment h item value := by
  by_cases name : item.name = some Settings.sectionName
  · cases members : section? value with
    | none => rw [augment_of_other fun _ => members, augment_of_other fun _ => members]
    | some own =>
      rw [augment_of_section name members, augment_of_section name rfl, extended, extended,
        Json.foldl_insertMember_of_inPlace fun _ =>
          Json.insertMember_foldl (distinct_additions h item.resource)]
  · have other (value : Json) : augment h item value = value :=
      augment_of_other fun same => absurd same name
    rw [other, other]

theorem getElem?_augmentAll (h : Nat → Host) (items : List ConfigurationItem) (values : List Json)
    (i : Nat) : (augmentAll h items values)[i]? = values[i]?.map fun value =>
      (items[i]?.map fun item => augment (h i) item value).getD value := by
  fun_induction augmentAll h items values generalizing i with
  | case1 h item items value values ih =>
    cases i with
    | zero => rfl
    | succ i => simpa using ih i
  | case2 items h values ended =>
    cases items with
    | nil => simp
    | cons item items =>
      cases values with
      | nil => rfl
      | cons value values => exact (ended item items value values rfl rfl).elim

theorem length_augmentAll (h : Nat → Host) (items : List ConfigurationItem) (values : List Json) :
    (augmentAll h items values).length = values.length := by
  fun_induction augmentAll h items values with
  | case1 h item items value values ih => simp [ih]
  | case2 => rfl

theorem augmentAll_augmentAll (h : Nat → Host) (items : List ConfigurationItem)
    (values : List Json) :
    augmentAll h items (augmentAll h items values) = augmentAll h items values := by
  refine List.ext_getElem? fun i => ?_
  simp only [getElem?_augmentAll, Option.map_map]
  congr 1
  funext value
  cases items[i]? with
  | none => rfl
  | some item => exact augment_augment ..

/-- An error of the editor's is passed on. Of the editor's answers, those to questions for the
broker's own section that are objects or null become objects with the members that were found out
when it was their turn, and all others stay. To tell a server again what it was told changes
nothing. -/
theorem answers_with_additions (h : Nat → Host) (items : List ConfigurationItem)
    (reply : Except RpcError (List Json)) :
    (∀ e, reply = .error e → answer (some h) items reply = .error e) ∧
    ∀ values, reply = .ok values → ∃ told, answer (some h) items reply = .ok told ∧
      told.length = values.length ∧
      (∀ i value, values[i]? = some value →
        (∀ item own, IsOwn items i value item own →
          ∃ members, told[i]? = some (.obj members) ∧
            Extends (h i) item.resource own members) ∧
        ((¬ ∃ item own, IsOwn items i value item own) → told[i]? = some value)) ∧
      answer (some h) items (.ok told) = .ok told := by
  refine ⟨fun e failed => by rw [failed, answer], fun values answered => ?_⟩
  refine ⟨augmentAll h items values, by rw [answered, answer], length_augmentAll .., ?_,
    congrArg Except.ok (augmentAll_augmentAll ..)⟩
  intro i value here
  have told := getElem?_augmentAll h items values i
  rw [here, Option.map_some] at told
  constructor
  · intro item own is
    rw [is.asked, Option.map_some, Option.getD_some, augment_of_section is.name is.members] at told
    exact ⟨_, told, extends_extended ..⟩
  · intro foreign
    rw [told]
    cases asked : items[i]? with
    | none => rfl
    | some item =>
      have other : item.name = some Settings.sectionName → section? value = none := fun name =>
        Option.eq_none_iff_forall_ne_some.2 fun own members =>
          foreign ⟨item, own, asked, name, members⟩
      rw [Option.map_some, Option.getD_some, augment_of_other other]

end Configuration

end LanguageBroker
