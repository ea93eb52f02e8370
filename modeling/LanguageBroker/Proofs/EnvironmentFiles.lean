import LanguageBroker.Editor.Session
import LanguageBroker.Proofs.ClaimedDocuments

/-!
Which changes of files are taken for changes of an environment file. A file is compared with the
environment file of the folder that it lies in itself, while servers read the one of the folder of
their documents. The two are the same where the configured place does not depend on a folder, and
otherwise only where the folder that the file lies in reads it, too. For a place that counts from
the folder this means that both folders are one directory.
-/

namespace LanguageBroker

namespace Path

variable {root root' place : Path}

/-- Below an absolute path, a relative one adds its components. -/
theorem components_join (absolute : root.isAbsolute) (relative : place.isAbsolute = false) :
    (root.join place).components = root.components ++ names place.bytes := by
  obtain ⟨bytes⟩ := root
  obtain ⟨back⟩ := place
  cases bytes with
  | nil => simp [isAbsolute] at absolute
  | cons b front =>
    obtain rfl : b = separator := by simpa [isAbsolute] using absolute
    -- the whole path ends in a separator or gets one, which stands before the place
    rcases front.eq_nil_or_concat with rfl | ⟨init, last, rfl⟩
    · simp [join, relative, components_absolute]
    · by_cases ends : last = separator
      · subst ends
        have joined : join ⟨separator :: init.concat separator⟩ ⟨back⟩
            = ⟨separator :: (init ++ separator :: back)⟩ := by
          simp [join, relative, List.getLast?_cons]
        have closed : names (init.concat separator) = names init := by
          simpa using names_append_separators init 1
        rw [joined, components_absolute, components_absolute, names_append, closed,
          List.cons_append]
      · have joined : join ⟨separator :: init.concat last⟩ ⟨back⟩
            = ⟨separator :: (init.concat last ++ separator :: back)⟩ := by
          simp [join, relative, List.getLast?_cons, ends]
        rw [joined, components_absolute, components_absolute, names_append, List.cons_append]

/-- A relative place is one file below two directories if they are one directory. -/
theorem sameAs_join (absolute : root.isAbsolute) (absolute' : root'.isAbsolute)
    (relative : place.isAbsolute = false) :
    (root.join place).sameAs (root'.join place) = root.sameAs root' := by
  rw [sameAs, sameAs, components_join absolute relative, components_join absolute' relative,
    Bool.eq_iff_iff, beq_iff_eq, beq_iff_eq, List.append_cancel_right_eq]

end Path

namespace Text

variable {needle replacement cs : List Char}

theorem stripFront_of_contains (absent : contains needle cs = false) :
    stripFront needle cs = none := by
  cases cs with
  | nil =>
    cases needle with
    | nil => simp [contains] at absent
    | cons c needle => rfl
  | cons c cs =>
    rw [contains, Bool.or_eq_false_iff] at absent
    simpa using absent.1

/-- What does not occur is not replaced. -/
theorem replaceAll_of_contains (absent : contains needle cs = false) :
    replaceAll needle replacement cs = cs := by
  have go (fuel : Nat) (cs : List Char) (absent : contains needle cs = false) :
      replaceAll.go needle replacement fuel cs = cs := by
    induction fuel generalizing cs with
    | zero => rfl
    | succ fuel ih =>
      cases cs with
      | nil => rfl
      | cons c cs =>
        have later : contains needle cs = false := by
          rw [contains, Bool.or_eq_false_iff] at absent
          exact absent.2
        rw [replaceAll.go, stripFront_of_contains absent, ih cs later]
  exact go cs.length cs absent

end Text

namespace EnvFile

variable {settings : Settings} {f g : Folder} {p root root' : Path}

/-- The place of an environment file, as it is configured or as usual. -/
def place (settings : Settings) : Path :=
  match configured? settings with
  | some cs => Path.ofString (String.ofList cs)
  | none => Path.ofString usualName

/-- Is the folder named in the configured place? -/
def NamesFolder (settings : Settings) : Prop :=
  ∃ cs, configured? settings = some cs ∧ Text.contains folderVariable cs = true

/-- The same file applies everywhere. -/
structure IsFixed (settings : Settings) : Prop where
  unnamed : ¬ NamesFolder settings
  absolute : (place settings).isAbsolute

/-- The place counts from the folder. -/
structure IsRelative (settings : Settings) : Prop where
  unnamed : ¬ NamesFolder settings
  relative : (place settings).isAbsolute = false

/-- The environment file of a folder is the file at the path. -/
def Applies (settings : Settings) (folder : Option Folder) (p : Path) : Prop :=
  ∃ file, path? settings folder = some file ∧ file.sameAs p

/-- A place in which no folder is named is looked up in the folder as it stands. -/
theorem path?_of_unnamed (unnamed : ¬ NamesFolder settings)
    (directory : f.uri.toPath? = some root) :
    path? settings (some f) = some (root.join (place settings)) := by
  cases configured : configured? settings with
  | none => simp [path?, place, configured, directory]
  | some cs =>
    have absent : Text.contains folderVariable cs = false := by
      by_contra present
      exact unnamed ⟨cs, configured, by simpa using present⟩
    simp [path?, place, configured, directory, Text.replaceAll_of_contains absent]

/-- Outside all directories only a fixed place is found. -/
theorem path?_of_no_root {folder : Option Folder} (outside : folder.bind (·.uri.toPath?) = none)
    (file : Path) :
    path? settings folder = some file ↔ IsFixed settings ∧ file = place settings := by
  cases configured : configured? settings with
  | none =>
    have usual : ¬ IsFixed settings := fun fixed => by
      have absolute := fixed.absolute
      rw [place, configured] at absolute
      exact absurd absolute (by decide +kernel)
    simp [path?, configured, outside, usual]
  | some cs =>
    by_cases present : Text.contains folderVariable cs
    · have named : ¬ IsFixed settings := fun fixed => fixed.unnamed ⟨cs, configured, present⟩
      simp [path?, configured, outside, present, named]
    · have fixed : IsFixed settings ↔ (Path.ofString (String.ofList cs)).isAbsolute := by
        refine ⟨fun fixed => by simpa [place, configured] using fixed.absolute, fun absolute => ?_⟩
        refine ⟨?_, by simpa [place, configured] using absolute⟩
        rintro ⟨ds, other, present'⟩
        obtain rfl := Option.some.inj (configured.symm.trans other)
        exact present present'
      have lookup : path? settings folder =
          if (Path.ofString (String.ofList cs)).isAbsolute
          then some (Path.ofString (String.ofList cs)) else none := by
        simp [path?, configured, outside, present]
      rw [lookup, fixed, place, configured]
      split
      · next absolute => simpa [absolute] using eq_comm
      · next relative => simp [relative]

/-- A fixed place is the environment file of every folder. -/
theorem IsFixed.path? (fixed : IsFixed settings) (folder : Option Folder) :
    path? settings folder = some (place settings) := by
  cases directory : folder.bind (·.uri.toPath?) with
  | none => exact (path?_of_no_root directory _).2 ⟨fixed, rfl⟩
  | some root =>
    obtain ⟨f, rfl, there⟩ := Option.bind_eq_some_iff.1 directory
    rw [path?_of_unnamed fixed.unnamed there, Path.join, if_pos fixed.absolute]

/-- One file is the environment file of two folders, at a place that counts from them, if they are
one directory. -/
theorem IsRelative.applies_iff (relative : IsRelative settings)
    (directory : f.uri.toPath? = some root) (applies : Applies settings (some f) p) :
    Applies settings (some g) p ↔ ∃ root', g.uri.toPath? = some root' ∧ root'.sameAs root := by
  have found := path?_of_unnamed relative.unnamed directory
  obtain ⟨file, found', same⟩ := applies
  obtain rfl := Option.some.inj (found.symm.trans found')
  cases directory' : g.uri.toPath? with
  | none =>
    have nowhere : ¬ Applies settings (some g) p := by
      rintro ⟨file, found, -⟩
      have fixed := ((path?_of_no_root (by simpa using directory') _).1 found).1
      exact absurd fixed.absolute (by simp [relative.relative])
    simp [nowhere]
  | some root' =>
    have joined : (root'.join (place settings)).sameAs (root.join (place settings))
        = root'.sameAs root := by
      obtain ⟨bytes, rfl, -⟩ := Uri.exists_of_toPath? directory
      obtain ⟨bytes', rfl, -⟩ := Uri.exists_of_toPath? directory'
      exact Path.sameAs_join rfl rfl relative.relative
    have found' := path?_of_unnamed relative.unnamed directory'
    simp only [Path.sameAs, beq_iff_eq] at same
    simp only [Applies, found', Option.some.injEq, exists_eq_left']
    rw [← joined, Path.sameAs, Path.sameAs, same]

/-- Where a folder's environment file is looked for, it is also found from another place if it is
fixed, or if it is the environment file of that place. -/
theorem applies_iff {own : Option Folder} (applies : Applies settings (some f) p) :
    Applies settings own p ↔
      IsFixed settings ∨ ∃ g, own = some g ∧ Applies settings (some g) p := by
  constructor
  · intro there
    cases own with
    | some g => exact .inr ⟨g, rfl, there⟩
    | none =>
      obtain ⟨file, found, -⟩ := there
      exact .inl ((path?_of_no_root rfl file).1 found).1
  · rintro (fixed | ⟨g, rfl, there⟩)
    · obtain ⟨file, found, same⟩ := applies
      exact ⟨file, by rw [fixed.path?, ← fixed.path? (some f), found], same⟩
    · exact there

end EnvFile

namespace Editor

variable {s : Session} {number : Nat} {m : Message} {params : Json} {u : Uri} {f : Folder}
  {p root : Path}

/-- The files that a notification lists. -/
def changedFiles (params : Json) : List Uri :=
  (((params.get? "changes").bind Json.items?).getD []).filterMap fun c =>
    ((c.get? "uri").bind Json.text?).bind Uri.parse?

/-- The notification of changed files, in a session that is ready, and its parameters. -/
structure Session.Hears (s : Session) (m : Message) (params : Json) : Prop where
  ready : s.phase = .ready
  notice : m.id = none
  method : m.method = "workspace/didChangeWatchedFiles"
  read : m.params.bind Duty.watchedFiles.params.read = some params

/-- A changed file is taken for an environment file if it is that of the folder that it lies in. -/
theorem Session.isEnvironmentFile_iff (path : u.toPath? = some p) :
    s.isEnvironmentFile u ↔
      EnvFile.Applies s.editor.settings (Workspace.folderFor s.editor.folders (some u)) p := by
  simp only [Session.isEnvironmentFile, path, EnvFile.Applies]
  split
  · next file found => simp_all
  · next none => simp_all

theorem Session.Hears.receive (h : s.Hears m params) (number : Nat) :
    s.receive number m =
      if (changedFiles params).any s.isEnvironmentFile
      then (s.announce .environment).respond number .nothing else s.respond number .nothing := by
  obtain ⟨ready, notice, method, read⟩ := h
  have duty : Duty.ofName? "workspace/didChangeWatchedFiles" = some .watchedFiles := rfl
  have told : Duty.watchedFiles.isNotification = true := rfl
  have accepted : s.receive number m = s.accept number m .watchedFiles := by
    simp [Session.receive, ready, method, duty]
  have served :
      s.accept number m .watchedFiles = (s.changeFiles params).respond number .nothing := by
    simp [Session.accept, ready, notice, read, told, Session.serve]
  rw [accepted, served, Session.changeFiles, changedFiles]
  split <;> rfl

/-- A changed file that is the environment file of an open folder is announced where one place is
configured for all folders, and where the folder that the file lies in reads it, too. Otherwise it
is passed over. A place that counts from the folder is read from both if both are one directory. -/
theorem environment_change_announced_from_own_folder (heard : s.Hears m params)
    (listed : u ∈ changedFiles params) (path : u.toPath? = some p)
    (applies : EnvFile.Applies s.editor.settings (some f) p) (number : Nat) :
    let settings := s.editor.settings
    let own := Workspace.folderFor s.editor.folders (some u)
    let noticed := EnvFile.IsFixed settings ∨
      ∃ g, own = some g ∧ EnvFile.Applies settings (some g) p
    (noticed → s.receive number m = (s.announce .environment).respond number .nothing) ∧
    (¬ noticed → (∀ v ∈ changedFiles params, s.isEnvironmentFile v → v = u) →
      s.receive number m = s.respond number .nothing) ∧
    (EnvFile.IsRelative settings → ∀ root, f.uri.toPath? = some root →
      (noticed ↔ ∃ g root', own = some g ∧ g.uri.toPath? = some root' ∧ root'.sameAs root)) := by
  intro settings own noticed
  have recognised : s.isEnvironmentFile u ↔ noticed :=
    (Session.isEnvironmentFile_iff path).trans (EnvFile.applies_iff applies)
  rw [heard.receive]
  refine ⟨fun here => if_pos (List.any_eq_true.2 ⟨u, listed, recognised.2 here⟩),
    fun missed alone => if_neg fun found => ?_, fun relative root directory => ?_⟩
  · obtain ⟨v, there, taken⟩ := List.any_eq_true.1 found
    exact missed (recognised.1 (alone v there taken ▸ taken))
  · have loose : ¬ EnvFile.IsFixed settings := fun fixed => by
      have absolute := fixed.absolute
      simp [relative.relative] at absolute
    simp only [noticed, loose, false_or, relative.applies_iff directory applies]
    exact exists_congr fun g => by rw [exists_and_left]

/-- A folder and one inside it. -/
def nestedFolders : List Folder :=
  [⟨localFile ["proj"], "proj"⟩, ⟨localFile ["proj", "config"], "config"⟩]

/-- A session in which both are open and the environment file of the first lies in the second. -/
def nestedSession : Session where
  broker := { site := { host := twoFolders, plan := fun _ => {} } }
  editor := { folders := nestedFolders, settings := { envFile := some "config/dev.env" } }
  surroundings _ := twoFolders
  phase := .ready

/-- The notification that the file has changed. -/
def nestedChange : Json :=
  .obj [("changes", .arr [.obj [("type", .int 2), ("uri", .str "file:///proj/config/dev.env")]])]

/-- The folder inside is taken for the file's own, and the change is passed over. -/
theorem environment_change_missed_in_inner_folder :
    EnvFile.Applies nestedSession.editor.settings (some ⟨localFile ["proj"], "proj"⟩)
        (.ofString "/proj/config/dev.env") ∧
      nestedSession.receive 1 ⟨none, "workspace/didChangeWatchedFiles", some nestedChange⟩
        = nestedSession.respond 1 .nothing := by
  have heard : nestedSession.Hears
      ⟨none, "workspace/didChangeWatchedFiles", some nestedChange⟩ nestedChange :=
    ⟨rfl, rfl, rfl, rfl⟩
  have listed : changedFiles nestedChange = [localFile ["proj", "config", "dev.env"]] := by
    decide +kernel
  have applies : EnvFile.Applies nestedSession.editor.settings (some ⟨localFile ["proj"], "proj"⟩)
      (.ofString "/proj/config/dev.env") :=
    ⟨.ofString "/proj/config/dev.env", by decide +kernel, by decide +kernel⟩
  have relative : EnvFile.IsRelative nestedSession.editor.settings := by
    refine ⟨?_, by decide +kernel⟩
    rintro ⟨cs, configured, named⟩
    have known : EnvFile.configured? nestedSession.editor.settings
        = some "config/dev.env".toList := by decide +kernel
    obtain rfl := Option.some.inj (known.symm.trans configured)
    exact absurd named (by decide +kernel)
  have own : Workspace.folderFor nestedSession.editor.folders
      (some (localFile ["proj", "config", "dev.env"]))
        = some ⟨localFile ["proj", "config"], "config"⟩ := by decide +kernel
  obtain ⟨-, missed, known⟩ := environment_change_announced_from_own_folder heard
    (u := localFile ["proj", "config", "dev.env"]) (listed ▸ List.mem_cons_self) (by decide +kernel)
    applies 1
  refine ⟨applies, missed (fun noticed => ?_) fun v there _ => by simpa [listed] using there⟩
  obtain ⟨g, root, inner, directory, same⟩ :=
    (known relative (.ofString "/proj") (by decide +kernel)).1 noticed
  obtain rfl := Option.some.inj (own.symm.trans inner)
  obtain rfl : root = .ofString "/proj/config" :=
    Option.some.inj (directory.symm.trans (by decide +kernel))
  exact absurd same (by decide +kernel)

end Editor

end LanguageBroker
