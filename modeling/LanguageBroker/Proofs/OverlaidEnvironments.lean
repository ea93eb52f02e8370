import LanguageBroker.Environment
import LanguageBroker.Proofs.KeyedLists
import Mathlib.Data.List.Induction

/-!
The environment of a resource whose folder has an environment file. What the file does not assign
the process decides, and of most variables the file's last value counts. A search path collects all
values that the file gives it, the last one first and the process's value behind them, up to an
empty one, which drops what stands before it in the file and in the process. So it is the file's
value with the process's behind it where the file assigns it once.
-/

namespace LanguageBroker.Environment

variable {process env : Environment} {entries : List (String × String)} {name value : String}

/-- The variables that list directories to search. -/
def IsSearchPath (name : String) : Prop := name = modulePath ∨ name = programPath

instance : Decidable (IsSearchPath name) := inferInstanceAs (Decidable (_ ∨ _))

/-- The values that a file gives a variable, in their order. -/
def assigned (entries : List (String × String)) (name : String) : List String :=
  (entries.filter fun entry => entry.1 = name).map Prod.snd

/-- A search path of several lists. Nothing is taken from an empty list on. -/
def joined (lists : List String) : String := ":".intercalate (lists.takeWhile (· ≠ ""))

@[simp] theorem joined_nil : joined [] = "" := by simp [joined]

@[simp] theorem joined_singleton (value : String) : joined [value] = value := by
  by_cases empty : value = "" <;> simp [joined, empty]

theorem takeWhile_of_joined {lists : List String} (nothing : joined lists = "") :
    lists.takeWhile (· ≠ "") = [] := by
  cases lists with
  | nil => rfl
  | cons value lists =>
    by_cases empty : value = ""
    · simp [empty]
    · rw [joined, List.takeWhile_cons_of_pos (by simpa using empty)] at nothing
      cases more : lists.takeWhile (· ≠ "") with
      | nil =>
        rw [more, String.intercalate_singleton] at nothing
        exact absurd nothing empty
      | cons next rest =>
        rw [more, String.intercalate_cons_cons, String.append_assoc,
          String.append_eq_empty_iff] at nothing
        exact absurd nothing.1 empty

theorem joined_cons (value : String) (lists : List String) :
    joined (value :: lists) =
      if value = "" ∨ joined lists = "" then value else value ++ ":" ++ joined lists := by
  by_cases empty : value = ""
  · simp [joined, empty]
  · have front : joined (value :: lists) = ":".intercalate (value :: lists.takeWhile (· ≠ "")) := by
      rw [joined, List.takeWhile_cons_of_pos (by simpa using empty)]
    by_cases nothing : joined lists = ""
    · rw [front, takeWhile_of_joined nothing, if_pos (.inr nothing), String.intercalate_singleton]
    · have more : lists.takeWhile (· ≠ "") ≠ [] := fun none => nothing (by rw [joined, none]; rfl)
      rw [front, String.intercalate_cons_of_ne_nil more, if_neg (by simp [empty, nothing]), joined]

/-- Lists that are put together one after the other. -/
theorem joined_joined (value : String) (lists : List String) :
    joined [value, joined lists] = joined (value :: lists) := by
  rw [joined_cons, joined_singleton, joined_cons]

/-- A value of the file, with the process's behind it unless one of them is empty. -/
def inFront (value : String) : Option String → String
  | some old => if value = "" ∨ old = "" then value else value ++ ":" ++ old
  | none => value

theorem joined_toList (value : String) (old : Option String) :
    joined (value :: old.toList) = inFront value old := by
  cases old with
  | none => simp [inFront]
  | some old => simp [inFront, joined_cons]

theorem value?_put (key : String) :
    (env.put name value).value? key = if key = name then some value else env.value? key := by
  rw [value?, put, List.lookup_cons]
  by_cases same : key = name
  · simp [same]
  · rw [beq_false_of_ne same, lookup_filter_key (fun k => decide (k ≠ name))]
    simp [same, value?]

theorem merged_of_other (other : ¬ IsSearchPath name) : env.merged name value = value := by
  unfold merged
  split
  · rw [if_neg]
    simp only [IsSearchPath, not_or] at other
    simp [other]
  · rfl

/-- A search path gets the new list in front of what it holds. -/
theorem merged_of_isSearchPath (path : IsSearchPath name) :
    env.merged name value = inFront value (env.value? name) := by
  unfold merged
  have known : (name == modulePath || name == programPath) = true := by
    simpa [IsSearchPath] using path
  cases env.value? name with
  | none => rfl
  | some old =>
    by_cases none : old = "" <;> by_cases empty : value = "" <;>
      simp [known, inFront, none, empty]

theorem assigned_concat (entries : List (String × String)) (entry : String × String)
    (name : String) : assigned (entries ++ [entry]) name =
      if entry.1 = name then assigned entries name ++ [entry.2] else assigned entries name := by
  by_cases same : entry.1 = name <;> simp [assigned, same]

/-- What the assignments of a file make of a variable. -/
def overlaid (process : Environment) (entries : List (String × String)) (name : String) :
    Option String :=
  match (assigned entries name).getLast? with
  | none => process.value? name
  | some last =>
    if IsSearchPath name then
      some (joined ((assigned entries name).reverse ++ (process.value? name).toList))
    else some last

theorem value?_overlay (process : Environment) (entries : List (String × String))
    (name : String) : (overlay process entries).value? name = overlaid process entries name := by
  induction entries using List.reverseRecOn with
  | nil => rfl
  | append_singleton entries entry ih =>
    obtain ⟨key, value⟩ := entry
    have step : overlay process (entries ++ [(key, value)])
        = (overlay process entries).assign (key, value) := by
      simp [overlay]
    rw [step, assign, value?_put]
    by_cases same : key = name
    · subst same
      simp only [if_true, overlaid, assigned_concat, List.getLast?_concat]
      split
      · next path =>
        rw [merged_of_isSearchPath path, ih, overlaid]
        cases earlier : (assigned entries key).getLast? with
        | none =>
          rw [List.getLast?_eq_none_iff.1 earlier]
          exact congrArg some (joined_toList ..).symm
        | some last =>
          simp only [path, if_true, List.reverse_append, List.append_assoc]
          exact congrArg some ((joined_toList value (some _)).symm.trans (joined_joined ..))
      · next other => rw [merged_of_other other]
    · rw [if_neg (Ne.symm same), ih, overlaid, overlaid, assigned_concat, if_neg same]

/-- What a folder's file assigns is laid over the process's environment. Variables that it does not
assign are the process's, others have its last value. A search path has all its values, the last
one first, and the process's value behind them, up to an empty one. If it has one value, or the
last is empty, this is the file's last value with the process's behind it. -/
theorem file_values_over_process {files : FileTree} {settings : Settings} {folder : Option Folder}
    {bytes : List UInt8} (file : (EnvFile.path? settings folder).bind files.content? = some bytes)
    (read : EnvFile.assignments process bytes = .ok entries) :
    ∃ env, forFolder process files settings folder = .ok env ∧ ∀ name,
      (assigned entries name = [] → env.value? name = process.value? name) ∧
      ∀ last, (assigned entries name).getLast? = some last →
        (¬ IsSearchPath name → env.value? name = some last) ∧
        (IsSearchPath name → env.value? name =
          some (joined ((assigned entries name).reverse ++ (process.value? name).toList))) ∧
        (IsSearchPath name → last = "" ∨ assigned entries name = [last] →
          env.value? name = some (inFront last (process.value? name))) := by
  refine ⟨overlay process entries, by simp [forFolder, file, read], fun name => ?_⟩
  rw [value?_overlay]
  refine ⟨fun unassigned => by simp [overlaid, unassigned], fun last ends => ?_⟩
  have collected (path : IsSearchPath name) : overlaid process entries name =
      some (joined ((assigned entries name).reverse ++ (process.value? name).toList)) := by
    simp [overlaid, ends, path]
  refine ⟨fun other => by simp [overlaid, ends, other], collected, fun path simple => ?_⟩
  rw [collected path]
  rcases simple with rfl | single
  · obtain ⟨front, shape⟩ := List.getLast?_eq_some_iff.1 ends
    rw [shape]
    cases process.value? name <;> simp [joined_cons, inFront]
  · rw [single]
    exact congrArg some (joined_toList ..)

/-- A folder's file that gives a search path two values. -/
def doubledFile : FileTree :=
  FileTree.insert {} [Text.encode "proj".toList, Text.encode EnvFile.usualName.toList]
    (.file (Text.encode "PATH=/a\nPATH=/b\n".toList) false)

/-- The folder with that file. -/
def doubledFolder : Folder :=
  ⟨⟨"file", some Uri.noHost, .segments ["proj"], none, none⟩, "proj"⟩

/-- The first value stays between the last one and the process's. -/
theorem file_values_over_process_doubled :
    ∃ env, forFolder [(programPath, "/p")] doubledFile {} (some doubledFolder) = .ok env ∧
      env.value? programPath = some "/b:/a:/p" := by
  have file : (EnvFile.path? {} (some doubledFolder)).bind doubledFile.content?
      = some (Text.encode "PATH=/a\nPATH=/b\n".toList) := by decide +kernel
  have read : EnvFile.assignments [(programPath, "/p")] (Text.encode "PATH=/a\nPATH=/b\n".toList)
      = .ok [(programPath, "/a"), (programPath, "/b")] := by decide +kernel
  obtain ⟨env, made, values⟩ := file_values_over_process file read
  have path := ((values programPath).2 "/b" (by decide)).2.1 (by decide)
  exact ⟨env, made, path.trans (by decide +kernel)⟩

end LanguageBroker.Environment
