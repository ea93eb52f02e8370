import LanguageBroker.Editor.Session
import LanguageBroker.Proofs.CompactText
import LanguageBroker.Proofs.KeyedLists
import LanguageBroker.Proofs.SettledShapes

/-!
Sections of settings. A section is an object or an array, which may leave out members that equal
their default, and gives back the settings that it was written from. Where one of its members is
malformed it gives the default settings and keeps none of the others. This is so in both ways that
an editor hands a section over: inside a document, and bare. Only a bare section with a member
that bears the section's own name is taken for a document around that member.
-/

namespace LanguageBroker

namespace Settings

/-- What kind of value a member has. -/
inductive MemberKind
  | switch
  | variant
  | text
  | texts
  | switches

/-- The kinds of the members, in their order. -/
def kinds : List MemberKind :=
  [.switch, .switch, .variant, .text, .text, .texts, .texts, .text, .texts, .switches, .switches,
    .switches]

def switchesJson (xs : List (String × Bool)) : Json := .obj (xs.map fun x => (x.1, .bool x.2))

/-- The value is one of its kind. -/
def MemberKind.Admits : MemberKind → Json → Prop
  | .switch, v => ∃ b, v = .bool b
  | .variant, v => ∃ x, v = .str (FullVariant.name x) ∨ v = .obj [(FullVariant.name x, .null)]
  | .text, v => ∃ s, v = Json.ofOption .str s
  | .texts, v => ∃ xs, v = Json.ofStrings xs
  | .switches, v => ∃ xs, v = switchesJson xs

/-- The known member of a section in place `i`, if it is there. -/
def member? : Json → Nat → Option Json
  | .obj members, i => memberNames[i]?.bind fun name => members.lookup name
  | .arr items, i => items[i]?
  | _, _ => none

/-- Some known member is not of its kind. -/
def IsMalformed (v : Json) : Prop :=
  ∃ i kind w, kinds[i]? = some kind ∧ member? v i = some w ∧ ¬ kind.Admits w

/-- The values of all members, in their order. -/
def values (s : Settings) : List Json :=
  [.bool s.useSimpleVariant, .bool s.downloadDisabled, .str (FullVariant.name s.fullVariant),
    Json.ofOption .str s.pythonPath, Json.ofOption .str s.envFile, Json.ofStrings s.extraPaths,
    Json.ofStrings s.typeshedPaths, Json.ofOption .str s.cacheFolderPath,
    Json.ofStrings s.lintIgnorePatterns, switchesJson s.searchExclude,
    switchesJson s.filesExclude, switchesJson s.filesWatcherExclude]

/-- Each known member has its value, or is missing and equals its default. -/
def Shows (s : Settings) (member : Nat → Option Json) : Prop :=
  ∀ i, member i = s.values[i]? ∨ (member i = none ∧ s.values[i]? = ({} : Settings).values[i]?)

/-- The section was written from the settings: as an object, perhaps with members that are not
known, or as an array of the first members. -/
def IsWrittenFrom (s : Settings) : Json → Prop
  | .obj members => Shows s (member? (.obj members))
  | .arr items => ∃ others, s.values = items ++ others ∧
      others = ({} : Settings).values.drop items.length
  | _ => False

variable {s : Settings} {v : Json} {α : Type} {read : Json → Option α} {fallback x : α}
  {member : Nat → Option Json}

/-! What each kind of value is read as. -/

@[simp] theorem readFullVariant_name (x : FullVariant) :
    readFullVariant (.str (FullVariant.name x)) = some x := by
  cases x <;> rfl

theorem eq_of_readFullVariant {x : FullVariant} (read : readFullVariant v = some x) :
    v = .str (FullVariant.name x) ∨ v = .obj [(FullVariant.name x, .null)] := by
  unfold readFullVariant at read
  split at read <;> simp at read <;> subst read <;> simp [FullVariant.name]

@[simp] theorem readOptional_ofOption (text : Option String) :
    readOptional (Json.ofOption .str text) = some text := by
  cases text <;> rfl

theorem eq_of_readOptional {text : Option String} (read : readOptional v = some text) :
    v = Json.ofOption .str text := by
  cases v with
  | null | str =>
    obtain rfl := Option.some.inj read
    rfl
  | _ => simp [readOptional] at read

@[simp] theorem readStrings_ofStrings (xs : List String) :
    readStrings (Json.ofStrings xs) = some xs := by
  induction xs with
  | nil => rfl
  | cons x xs ih => simp_all [readStrings, Json.ofStrings, List.mapM_cons, Json.text?]

/-- Items that are read one by one are those that their readings are written as. -/
theorem eq_map_of_mapM {β : Type} {f : α → Option β} {g : β → α}
    (back : ∀ a b, f a = some b → a = g b) {as : List α} {bs : List β}
    (known : as.mapM f = some bs) : as = bs.map g := by
  induction as generalizing bs with
  | nil =>
    obtain rfl : [] = bs := by simpa using known
    rfl
  | cons a as ih =>
    rw [List.mapM_cons] at known
    obtain ⟨b, first, known⟩ := Option.bind_eq_some_iff.1 known
    obtain ⟨others, rest, known⟩ := Option.bind_eq_some_iff.1 known
    obtain rfl := Option.some.inj known
    rw [List.map_cons, ← ih rest, ← back a b first]

theorem eq_of_text? {text : String} (read : v.text? = some text) : v = .str text := by
  cases v with
  | str =>
    obtain rfl := Option.some.inj read
    rfl
  | _ => simp [Json.text?] at read

theorem eq_of_bool? {b : Bool} (read : v.bool? = some b) : v = .bool b := by
  cases v with
  | bool =>
    obtain rfl := Option.some.inj read
    rfl
  | _ => simp [Json.bool?] at read

theorem eq_of_readStrings {xs : List String} (read : readStrings v = some xs) :
    v = Json.ofStrings xs := by
  cases v with
  | arr items => exact congrArg Json.arr (eq_map_of_mapM (fun _ _ => eq_of_text?) read)
  | _ => simp [readStrings] at read

@[simp] theorem readFlags_switchesJson (xs : List (String × Bool)) :
    readFlags (switchesJson xs) = some xs := by
  induction xs with
  | nil => rfl
  | cons x xs ih => simp_all [readFlags, switchesJson, List.mapM_cons, Json.bool?]

theorem eq_of_readFlags {xs : List (String × Bool)} (read : readFlags v = some xs) :
    v = switchesJson xs := by
  cases v with
  | obj members =>
    refine congrArg Json.obj (eq_map_of_mapM (fun m x one => ?_) read)
    obtain ⟨b, known, rfl⟩ := Option.map_eq_some_iff.1 one
    rw [← eq_of_bool? known]
  | _ => simp [readFlags] at read

/-! Sections as a whole. -/

theorem readMember_of_shown {shown default : Json} {held : Option Json}
    (back : read shown = some x) (usual : read default = some fallback)
    (given : held = some shown ∨ held = none ∧ some shown = some default) :
    readMember read fallback held = some x := by
  rcases given with rfl | ⟨rfl, same⟩
  · exact back
  · obtain rfl := Option.some.inj same
    exact usual.symm.trans back

theorem readMembers_of_shows (shows : Shows s member) : readMembers member = some s := by
  have h0 : readMember Json.bool? false (member 0) = some s.useSimpleVariant :=
    readMember_of_shown rfl rfl (shows 0)
  have h1 : readMember Json.bool? false (member 1) = some s.downloadDisabled :=
    readMember_of_shown rfl rfl (shows 1)
  have h2 : readMember readFullVariant .b (member 2) = some s.fullVariant :=
    readMember_of_shown (readFullVariant_name _) rfl (shows 2)
  have texts {i : Nat} {text : Option String}
      (given : member i = some (Json.ofOption .str text) ∨
        member i = none ∧ some (Json.ofOption .str text) = some (Json.ofOption .str none)) :
      readMember readOptional none (member i) = some text :=
    readMember_of_shown (readOptional_ofOption _) rfl given
  have lists {i : Nat} {xs : List String}
      (given : member i = some (Json.ofStrings xs) ∨
        member i = none ∧ some (Json.ofStrings xs) = some (Json.ofStrings [])) :
      readMember readStrings [] (member i) = some xs :=
    readMember_of_shown (readStrings_ofStrings _) rfl given
  have flags {i : Nat} {xs : List (String × Bool)}
      (given : member i = some (switchesJson xs) ∨
        member i = none ∧ some (switchesJson xs) = some (switchesJson [])) :
      readMember readFlags [] (member i) = some xs :=
    readMember_of_shown (readFlags_switchesJson _) rfl given
  simp [readMembers, h0, h1, h2, texts (shows 3), texts (shows 4), lists (shows 5),
    lists (shows 6), texts (shows 7), lists (shows 8), flags (shows 9), flags (shows 10),
    flags (shows 11)]

/-- Where a section could be read, each member that is there is of its kind. -/
theorem admits_of_readMembers (known : readMembers member = some s) {i : Nat} {kind : MemberKind}
    {w : Json} (place : kinds[i]? = some kind) (held : member i = some w) : kind.Admits w := by
  have given {α : Type} {read : Json → Option α} {fallback x : α}
      (h : readMember read fallback (member i) = some x) : read w = some x := by
    simpa [held, readMember] using h
  simp only [readMembers, Option.bind_eq_bind, Option.bind_eq_some_iff] at known
  obtain ⟨_, h0, _, h1, _, h2, _, h3, _, h4, _, h5, _, h6, _, h7, _, h8, _, h9, _, h10, _, h11,
    -⟩ := known
  match i with
  | 0 => exact Option.some.inj place ▸ ⟨_, eq_of_bool? (given h0)⟩
  | 1 => exact Option.some.inj place ▸ ⟨_, eq_of_bool? (given h1)⟩
  | 2 => exact Option.some.inj place ▸ ⟨_, eq_of_readFullVariant (given h2)⟩
  | 3 => exact Option.some.inj place ▸ ⟨_, eq_of_readOptional (given h3)⟩
  | 4 => exact Option.some.inj place ▸ ⟨_, eq_of_readOptional (given h4)⟩
  | 5 => exact Option.some.inj place ▸ ⟨_, eq_of_readStrings (given h5)⟩
  | 6 => exact Option.some.inj place ▸ ⟨_, eq_of_readStrings (given h6)⟩
  | 7 => exact Option.some.inj place ▸ ⟨_, eq_of_readOptional (given h7)⟩
  | 8 => exact Option.some.inj place ▸ ⟨_, eq_of_readStrings (given h8)⟩
  | 9 => exact Option.some.inj place ▸ ⟨_, eq_of_readFlags (given h9)⟩
  | 10 => exact Option.some.inj place ▸ ⟨_, eq_of_readFlags (given h10)⟩
  | 11 => exact Option.some.inj place ▸ ⟨_, eq_of_readFlags (given h11)⟩
  | _ + 12 => simp [kinds] at place

theorem ofSection?_of_isWrittenFrom (written : IsWrittenFrom s v) : ofSection? v = some s := by
  cases v with
  | obj members => exact readMembers_of_shows written
  | arr items =>
    obtain ⟨others, whole, usual⟩ := written
    have lengths := congrArg List.length whole
    have short : items.length ≤ memberNames.length := by
      simp only [List.length_append, values, List.length_cons, List.length_nil] at lengths
      simp only [memberNames, List.length_cons, List.length_nil]
      omega
    rw [ofSection?, if_pos short]
    refine readMembers_of_shows fun i => ?_
    rw [whole, usual]
    by_cases there : i < items.length
    · exact .inl (List.getElem?_append_left there).symm
    · refine .inr ⟨List.getElem?_eq_none (by omega), ?_⟩
      rw [List.getElem?_append_right (by omega), List.getElem?_drop]
      congr 1
      omega
  | _ => exact written.elim

theorem ofSection?_of_isMalformed (malformed : IsMalformed v) : ofSection? v = none := by
  obtain ⟨i, kind, w, place, held, bad⟩ := malformed
  refine Option.eq_none_iff_forall_ne_some.2 fun s known => bad ?_
  cases v with
  | obj members =>
    rw [ofSection?] at known
    exact admits_of_readMembers known place held
  | arr items =>
    rw [ofSection?] at known
    split at known
    · exact admits_of_readMembers known place held
    · simp at known
  | _ => simp [member?] at held

/-! The two ways a section is handed over. -/

/-- Greeted with a document, a session begins with the settings of its section. -/
theorem openingSettings?_of_document {params options : Json}
    (brought : params.get? "initializationOptions" = some options)
    (holds : options.get? sectionName = some v) :
    Editor.Session.openingSettings? params = some (ofJson options) := by
  simp [Editor.Session.openingSettings?, brought, holds]

theorem editor_announceSettings (session : Editor.Session) (before : Settings) (given : Json) :
    (session.announceSettings before given).editor = session.editor := by
  have announced (t : Editor.Session) (c : Prop) [Decidable c] (e : WorkspaceEvent) :
      (if c then t.announce e else t).editor = t.editor := by
    split <;> rfl
  exact (announced _ _ _).trans (announced _ _ _)

/-- A notification of changed settings hands over the bare section. -/
theorem settings_changeSettings (session : Editor.Session) {params : Json}
    (given : params.path? ["settings", sectionName] = some v) :
    (session.changeSettings params).editor.settings = ofJson v := by
  unfold Editor.Session.changeSettings EditorState.setSettings
  rw [given]
  by_cases same : session.editor.settings = ofJson v
  · simp [same]
  · simp [same, editor_announceSettings, Editor.Session.refresh]

/-- The section gives the settings however it is handed over, unless it is bare and has a member
that bears the section's own name. -/
structure Gives (v : Json) (s : Settings) : Prop where
  bare : v.get? sectionName = none → ofJson v = s
  wrapped : ∀ document : Json, document.get? sectionName = some v → ofJson document = s
  greeting : ∀ params options : Json, params.get? "initializationOptions" = some options →
    options.get? sectionName = some v → Editor.Session.openingSettings? params = some s
  change : v.get? sectionName = none → ∀ (session : Editor.Session) (params : Json),
    params.path? ["settings", sectionName] = some v →
      (session.changeSettings params).editor.settings = s

theorem gives_ofSection (v : Json) : Gives v ((ofSection? v).getD {}) := by
  have bare (plain : v.get? sectionName = none) : ofJson v = (ofSection? v).getD {} := by
    rw [ofJson, plain, Option.getD_none]
  have wrapped (document : Json) (holds : document.get? sectionName = some v) :
      ofJson document = (ofSection? v).getD {} := by
    rw [ofJson, holds, Option.getD_some]
  exact
    { bare, wrapped
      greeting := fun params options brought holds => by
        rw [openingSettings?_of_document brought holds, wrapped options holds]
      change := fun plain session params given => by
        rw [settings_changeSettings session given, bare plain] }

/-! Sections that the settings themselves are written as. -/

/-- The maps among the settings hold each key once, in order. -/
structure IsOrdered (s : Settings) : Prop where
  search : (s.searchExclude.map Prod.fst).Pairwise (· < ·)
  files : (s.filesExclude.map Prod.fst).Pairwise (· < ·)
  watcher : (s.filesWatcherExclude.map Prod.fst).Pairwise (· < ·)

theorem object_switches {xs : List (String × Bool)}
    (ascending : (xs.map Prod.fst).Pairwise (· < ·)) :
    Json.object (xs.map fun x => (x.1, .bool x.2)) = switchesJson xs :=
  Json.object_of_ascending (by simpa [Function.comp_def] using ascending)

theorem toJson_eq (ordered : s.IsOrdered) : s.toJson = Json.object (memberNames.zip s.values) := by
  simp only [toJson, object_switches ordered.search, object_switches ordered.files,
    object_switches ordered.watcher]
  rfl

theorem isWrittenFrom_toJson (ordered : s.IsOrdered) : IsWrittenFrom s s.toJson := by
  have distinct : memberNames.Nodup := by decide
  have lengths : memberNames.length = s.values.length := rfl
  rw [toJson_eq ordered]
  intro i
  have names : (memberNames.zip s.values).map Prod.fst = memberNames := by
    rw [List.map_fst_zip (Nat.le_of_eq lengths)]
  refine .inl ?_
  rw [member?]
  cases place : memberNames[i]? with
  | none =>
    rw [List.getElem?_eq_none_iff, lengths] at place
    simp [List.getElem?_eq_none place]
  | some name =>
    rw [Option.bind_some, Json.lookup_foldl_insertMember name [] (names ▸ distinct),
      lookup_zip distinct place, List.lookup_nil, Option.or_none]

/-- A section gives back the settings it was written from, and the default settings where a known
member is malformed, in either way that it is handed over. A bare one is left out if it has a
member that bears the section's own name. Settings are written as the array of their values and as
the object of them. -/
theorem sections_give_settings :
    (∀ (s : Settings) (v : Json), IsWrittenFrom s v → Gives v s) ∧
    (∀ v, IsMalformed v → Gives v {}) ∧
    ∀ s : Settings, IsWrittenFrom s (.arr s.values) ∧
      (s.IsOrdered → IsWrittenFrom s s.toJson) := by
  refine ⟨fun s v written => ?_, fun v malformed => ?_, fun s =>
    ⟨⟨[], (List.append_nil _).symm, rfl⟩, isWrittenFrom_toJson⟩⟩
  · simpa [ofSection?_of_isWrittenFrom written] using gives_ofSection v
  · simpa [ofSection?_of_isMalformed malformed] using gives_ofSection v

/-- A section with a malformed member and one that bears the section's own name. -/
def sectionInSection : Json :=
  .obj [("extraPaths", .int 42), ("python", .obj [("useSimpleVariant", .bool true)])]

/-- Bare, it is taken for a document around the member of its own name. -/
theorem malformed_section_read_inside :
    IsMalformed sectionInSection ∧ ofJson sectionInSection = { useSimpleVariant := true } ∧
      ({ useSimpleVariant := true } : Settings) ≠ {} := by
  refine ⟨⟨5, .texts, .int 42, rfl, ?_, ?_⟩, ?_, by decide⟩
  · simp [member?, sectionInSection, memberNames]
  · rintro ⟨xs, same⟩
    simp [Json.ofStrings] at same
  · decide +kernel

end Settings

end LanguageBroker
