import LanguageBroker.Proofs.ClaimedDocuments

/-!
The folder of a resource among nested ones. Folders that contain one resource lie on one path, and
the one with the longest text is chosen. Slashes at the end of a folder's text make no difference
to what it contains, but count for its length. So the chosen folder is the deepest unless its text
ends in two or more slashes, which can make it the longest although another one lies below it.
-/

namespace LanguageBroker

namespace Text

/-- The length of a text in bytes. -/
def size (cs : List Char) : Nat := (String.ofList cs).utf8ByteSize

theorem size_append (front back : List Char) : size (front ++ back) = size front + size back := by
  simp [size, String.ofList_append]

theorem length_le_size (cs : List Char) : cs.length ≤ size cs := by
  induction cs with
  | nil => simp
  | cons c cs ih =>
    have first : 0 < size [c] := by
      simpa [size] using Char.utf8Size_pos c
    have whole := size_append [c] cs
    rw [List.singleton_append] at whole
    rw [List.length_cons]
    omega

theorem size_slashes (n : Nat) : size (List.replicate n '/') = n := by
  induction n with
  | zero => rfl
  | succ n ih =>
    have one : size ['/'] = 1 := by decide
    rw [List.replicate_succ', size_append, ih, one]

end Text

namespace Folder

variable {folder inner outer resource : Uri}

/-- How many slashes the folder's text ends in. -/
def spare (folder : Uri) : Nat := folder.text.toList.length - (base folder).length

/-- The resource equals the folder or lies below it. -/
def Holds (folder resource : Uri) : Prop :=
  resource.text.toList = base folder ∨ base folder ++ ['/'] <+: resource.text.toList

/-- One folder lies strictly below another. -/
def IsBelow (inner outer : Uri) : Prop := base outer ++ ['/'] <+: base inner

instance : Decidable (IsBelow inner outer) := inferInstanceAs (Decidable (_ <+: _))

theorem contains_iff : contains folder resource ↔ Holds folder resource := by
  unfold contains
  constructor
  · intro inside
    cases found : Text.stripFront (base folder) resource.text.toList with
    | none => simp [found] at inside
    | some rest =>
      have whole := Text.eq_append_of_stripFront found
      cases rest with
      | nil => exact .inl (by simpa using whole)
      | cons c rest =>
        obtain rfl : c = '/' := by simpa [found] using inside
        exact .inr ⟨rest, by simp [whole]⟩
  · rintro (same | ⟨rest, whole⟩)
    · have found := Text.stripFront_append (base folder) []
      rw [List.append_nil] at found
      rw [same, found]
    · rw [← whole, List.append_assoc, Text.stripFront_append]
      simp

theorem toList_text (folder : Uri) :
    folder.text.toList = base folder ++ List.replicate (spare folder) '/' := by
  obtain ⟨n, shape⟩ := Text.exists_slashes folder.text.toList
  rw [← base] at shape
  have number : spare folder = n := by
    have lengths := congrArg List.length shape
    rw [List.length_append, List.length_replicate] at lengths
    unfold spare
    omega
  rw [number, ← shape]

theorem size_text (folder : Uri) :
    folder.text.utf8ByteSize = Text.size (base folder) + spare folder := by
  rw [← Text.size_slashes (spare folder), ← Text.size_append, ← toList_text, Text.size,
    String.ofList_toList]

/-- Without the slashes at its end a folder does not end in one. -/
theorem base_ne_append_slash (folder : Uri) (front : List Char) : base folder ≠ front ++ ['/'] := by
  intro ends
  have stripped : folder.text.toList.reverse.dropWhile (· = '/') = '/' :: front.reverse := by
    simpa [base] using congrArg List.reverse ends
  have first := List.head?_dropWhile_not (fun c : Char => decide (c = '/'))
    folder.text.toList.reverse
  simp [stripped] at first

/-- Below a folder there is a slash and a name at least. -/
theorem IsBelow.size_base (below : IsBelow inner outer) :
    Text.size (base outer) + 2 ≤ Text.size (base inner) := by
  obtain ⟨rest, shape⟩ := below
  have named : 1 ≤ rest.length := by
    by_contra none
    obtain rfl : rest = [] := List.length_eq_zero_iff.1 (by omega)
    exact base_ne_append_slash inner _ (by rw [← shape, List.append_nil])
  have one : Text.size ['/'] = 1 := by decide
  have long := Text.length_le_size rest
  rw [← shape, Text.size_append, Text.size_append, one]
  omega

theorem Holds.base_prefix (holds : Holds folder resource) :
    base folder <+: resource.text.toList := by
  rcases holds with same | below
  · exact same ▸ List.prefix_refl _
  · exact (List.prefix_append _ _).trans below

/-- Of two folders along the way to a resource, the inner one is the outer or lies below it. -/
theorem Holds.at_or_below (holds : Holds outer resource)
    (along : base inner <+: resource.text.toList) (above : base outer <+: base inner) :
    base inner = base outer ∨ IsBelow inner outer := by
  obtain ⟨rest, shape⟩ := above
  cases rest with
  | nil => exact .inl (by rw [← shape, List.append_nil])
  | cons c rest =>
    obtain ⟨behind, whole⟩ := along
    rw [← shape, List.append_assoc] at whole
    rcases holds with same | ⟨other, whole'⟩
    · have lengths := congrArg List.length (whole.trans same)
      simp at lengths
    · -- the resource goes on with a slash behind the outer folder
      rw [← whole', List.append_assoc, List.append_cancel_left_eq] at whole
      obtain ⟨rfl, -⟩ := List.cons.inj whole
      exact .inr ⟨rest, by rw [← shape, List.append_assoc]; rfl⟩

/-- Two folders of one resource are one place, or one of them lies below the other. -/
theorem Holds.nested (first : Holds inner resource) (second : Holds outer resource) :
    base outer = base inner ∨ IsBelow inner outer ∨ IsBelow outer inner := by
  rcases List.prefix_or_prefix_of_prefix first.base_prefix second.base_prefix with above | above
  · exact (first.at_or_below second.base_prefix above).imp_right .inr
  · exact (second.at_or_below first.base_prefix above).imp Eq.symm .inl

end Folder

namespace Workspace

variable {best : Option Folder} {folders : List Folder} {f : Folder} {resource : Uri}

theorem foldl_longer_isSome (f : Folder) (folders : List Folder) :
    (folders.foldl longer (some f)).isSome := by
  induction folders generalizing f with
  | nil => rfl
  | cons g folders ih =>
    rw [List.foldl_cons, longer]
    split
    · exact ih f
    · exact ih g

/-- None of the folders is longer than the one chosen. -/
theorem size_le_of_foldl_longer (found : folders.foldl longer best = some f) :
    ∀ g, (best = some g ∨ g ∈ folders) → g.uri.text.utf8ByteSize ≤ f.uri.text.utf8ByteSize := by
  induction folders generalizing best with
  | nil =>
    rintro g (first | there)
    · obtain rfl := Option.some.inj (first.symm.trans found)
      exact Nat.le_refl _
    · simp at there
  | cons k folders ih =>
    have later := ih found
    cases best with
    | none =>
      rintro g (first | there)
      · simp at first
      · rcases List.mem_cons.1 there with rfl | there
        · exact later g (.inl rfl)
        · exact later g (.inr there)
    | some b =>
      by_cases shorter : b.uri.text.utf8ByteSize > k.uri.text.utf8ByteSize
      · have kept := later b (.inl (by simp [longer, shorter]))
        rintro g (first | there)
        · obtain rfl := Option.some.inj first
          exact kept
        · rcases List.mem_cons.1 there with rfl | there
          · omega
          · exact later g (.inr there)
      · have taken := later k (.inl (by simp [longer, shorter]))
        rintro g (first | there)
        · obtain rfl := Option.some.inj first
          omega
        · rcases List.mem_cons.1 there with rfl | there
          · exact taken
          · exact later g (.inr there)

theorem folderFor_eq_none_iff :
    folderFor folders (some resource) = none ↔ ∀ f ∈ folders, ¬ Folder.Holds f.uri resource := by
  simp only [folderFor, ← Folder.contains_iff]
  cases around : folders.filter fun f => Folder.contains f.uri resource with
  | nil => simpa using around
  | cons f others =>
    have there : f ∈ folders.filter fun f => Folder.contains f.uri resource := by simp [around]
    obtain ⟨isOpen, inside⟩ := List.mem_filter.1 there
    have found := foldl_longer_isSome f others
    refine iff_of_false (fun none => ?_) fun outside => outside f isOpen inside
    rw [List.foldl_cons, longer] at none
    simp [none] at found

/-- A resource has no folder if no open one contains it. The folder that it has contains it and is
a longest one of those that do, which all lie on one path. So it lies at or below all of them,
unless its text ends in two or more slashes. -/
theorem folderFor_longest_on_path (folders : List Folder) (resource : Uri) :
    (folderFor folders (some resource) = none ↔
      ∀ f ∈ folders, ¬ Folder.Holds f.uri resource) ∧
    ∀ f, folderFor folders (some resource) = some f →
      f ∈ folders ∧ Folder.Holds f.uri resource ∧
      ∀ g ∈ folders, Folder.Holds g.uri resource →
        g.uri.text.utf8ByteSize ≤ f.uri.text.utf8ByteSize ∧
        (Folder.base g.uri = Folder.base f.uri ∨ Folder.IsBelow f.uri g.uri ∨
          Folder.IsBelow g.uri f.uri) ∧
        (Folder.IsBelow g.uri f.uri → 2 ≤ Folder.spare f.uri) := by
  refine ⟨folderFor_eq_none_iff, fun f found => ?_⟩
  have inside := Folder.contains_iff.1 (contains_of_folderFor found)
  have isOpen : f ∈ folders := by
    rcases mem_of_foldl_longer found with none | there
    · simp at none
    · exact (List.mem_filter.1 there).1
  refine ⟨isOpen, inside, fun g there around => ?_⟩
  have shorter : g.uri.text.utf8ByteSize ≤ f.uri.text.utf8ByteSize :=
    size_le_of_foldl_longer found g
      (.inr (List.mem_filter.2 ⟨there, Folder.contains_iff.2 around⟩))
  refine ⟨shorter, inside.nested around, fun below => ?_⟩
  have deeper := below.size_base
  rw [Folder.size_text, Folder.size_text] at shorter
  omega

/-- A folder that is written with three slashes at its end. -/
def slashedFolder : Folder := ⟨localFile ["a", "", "", ""], "outer"⟩

/-- A folder inside it. -/
def insideFolder : Folder := ⟨localFile ["a", "b"], "inner"⟩

/-- The file in both folders is taken to be in the outer one. -/
theorem folderFor_slashed_folder :
    folderFor [slashedFolder, insideFolder] (some (localFile ["a", "b", "x.py"]))
        = some slashedFolder ∧
      Folder.Holds insideFolder.uri (localFile ["a", "b", "x.py"]) ∧
      Folder.IsBelow insideFolder.uri slashedFolder.uri ∧ 2 ≤ Folder.spare slashedFolder.uri := by
  have found : folderFor [slashedFolder, insideFolder] (some (localFile ["a", "b", "x.py"]))
      = some slashedFolder := by decide +kernel
  have inside : Folder.Holds insideFolder.uri (localFile ["a", "b", "x.py"]) :=
    Folder.contains_iff.1 (by decide +kernel)
  have below : Folder.IsBelow insideFolder.uri slashedFolder.uri := by decide +kernel
  obtain ⟨_, _, others⟩ := (folderFor_longest_on_path _ _).2 _ found
  exact ⟨found, inside, below, (others insideFolder (by simp) inside).2.2 below⟩

end Workspace

end LanguageBroker
