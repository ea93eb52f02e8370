import LanguageBroker.Middleware
import LanguageBroker.Options
import LanguageBroker.Proofs.FileUris

/-!
The documents that a folder's server claims. Calls are routed by the texts of URIs and claimed by
the components of paths, which the folder's pattern is compared with. For files on the local host
a folder that contains a URI is a directory above its path, so the two agree: a server among others
claims what is routed to its folder, and nothing that lies in a folder apart from it.
-/

namespace LanguageBroker

variable {f : Folder} {folders : List Folder} {u : Uri} {p q : Path} {params : Json}

/-- The path is written in UTF-8. -/
def Path.IsText (p : Path) : Prop := ∃ cs, p.bytes = Text.encode cs

/-- A URI as it is read from a text, and the file on the local host that it names. -/
structure Uri.NamesFile (u : Uri) (p : Path) : Prop where
  read : ∃ text, Uri.parse? text = some u
  scheme : u.scheme = "file"
  path : u.toPath? = some p

theorem Uri.NamesFile.isLocalFile (h : u.NamesFile p) : u.IsLocalFile := by
  obtain ⟨_, parsed⟩ := h.read
  exact isLocalFile_of_parse? parsed h.scheme (by simp [h.path])

namespace Workspace

theorem mem_of_foldl_longer {best : Option Folder} (found : folders.foldl longer best = some f) :
    best = some f ∨ f ∈ folders := by
  induction folders generalizing best with
  | nil => exact .inl found
  | cons g folders ih =>
    rcases ih found with chosen | there
    · unfold longer at chosen
      split at chosen
      · split at chosen
        · exact .inl chosen
        · exact .inr (Option.some.inj chosen ▸ List.mem_cons_self)
      · exact .inr (Option.some.inj chosen ▸ List.mem_cons_self)
    · exact .inr (List.mem_cons_of_mem _ there)

/-- The folder of a resource contains it. -/
theorem contains_of_folderFor (found : folderFor folders (some u) = some f) :
    Folder.contains f.uri u := by
  rcases mem_of_foldl_longer found with none | there
  · simp at none
  · exact (List.mem_filter.1 there).2

end Workspace

namespace DocumentFilter

/-- The call parameters name the document. -/
def Names (params : Json) (u : Uri) : Prop :=
  ((params.path? ["textDocument", "uri"]).bind Json.text?).bind Uri.parse? = some u

instance : Decidable (Names params u) := inferInstanceAs (Decidable (_ = _))

/-- The language of the document, where the call parameters state it. -/
def language? (params : Json) : Option String :=
  (params.path? ["textDocument", "languageId"]).bind Json.text?

/-- The pattern of a folder admits what lies below its directory. -/
theorem patternAdmits_folderRoot (root : f.uri.toPath? = some p) (text : p.IsText)
    (path : u.toPath? = some q) :
    patternAdmits (String.ofList (Options.folderRoot f ++ belowMark)) u = q.startsWith p := by
  obtain ⟨cs, bytes⟩ := text
  obtain ⟨n, slashes⟩ := Text.exists_slashes cs
  have trimmed : Options.folderRoot f = (cs.reverse.dropWhile (· = '/')).reverse := by
    simp only [Options.folderRoot, root, Path.text, bytes, Text.decodeLossy_encode,
      String.toList_ofList]
  obtain ⟨front, absolute, -⟩ := Uri.exists_of_toPath? root
  obtain ⟨back, rfl, -⟩ := Uri.exists_of_toPath? path
  have shape : p = ⟨Text.encode (Options.folderRoot f) ++ List.replicate n Path.separator⟩ := by
    rw [trimmed, ← Text.encode_slashes, ← Text.encode_append, ← slashes, ← bytes]
  rw [patternAdmits, String.toList_ofList, Text.stripBack_append]
  simp only [path, Path.ofString, String.toList_ofList]
  rw [shape, Path.startsWith_append_separators]
  simpa [absolute] using congrArg (List.head? ∘ Path.bytes) shape.symm

theorem claims_of_names (names : Names params u) (selector : List DocumentFilter) :
    claims selector params
      = (selector.isEmpty || selector.any (·.admits u (language? params))) := by
  unfold Names at names
  simp only [claims, names, language?]

/-- Among others, the server of a folder claims the files below the folder's directory. -/
theorem claims_selectorFor (root : f.uri.toPath? = some p) (text : p.IsText)
    (names : Names params u) (scheme : u.scheme = "file") (path : u.toPath? = some q) :
    claims (Options.selectorFor (some f) true) params
      = ((language? params).all (· == Options.languageId) && q.startsWith p) := by
  have below := patternAdmits_folderRoot root text path
  rw [String.ofList_append] at below
  rw [claims_of_names names]
  cases language? params with
  | none => simp [Options.selectorFor, admits, scheme, below]
  | some actual => simp [Options.selectorFor, admits, scheme, below, Bool.beq_comm]

end DocumentFilter

namespace Options

theorem selector_of_make {h : Host} {variant : Variant} {scope : Scope} {options : Options}
    {inputs : Inputs} (made : make h variant scope = .ok (options, inputs)) :
    options.selector
      = selectorFor (h.folderFor scope.resource) (h.folders.length > 1 && variant.isFull) := by
  unfold make at made
  split at made
  · simp at made
  · obtain ⟨rfl, -⟩ := Prod.mk.inj (Except.ok.inj made)
    rfl

end Options

/-- A full server beside others claims the files that are routed to its folder, however they and
the folder are written, and no file in an open folder that lies neither above nor below its own. -/
theorem Middleware.claims_own_folder {h : Host} {variant : Variant} {scope : Scope}
    {options : Options} {inputs : Inputs} {w : Middleware}
    (made : Options.make h variant scope = .ok (options, inputs))
    (full : variant.isFull) (others : 2 ≤ h.folders.length)
    (own : h.folderFor scope.resource = some f) (root : f.uri.NamesFile p) (text : p.IsText)
    (selector : w.selector = options.selector)
    (names : DocumentFilter.Names params u) (file : u.NamesFile q) :
    (h.folderFor (some u) = some f →
        (∀ language, DocumentFilter.language? params = some language →
          language = Options.languageId) →
        DocumentFilter.claims w.selector params = true) ∧
      ∀ g r, g ∈ h.folders → Folder.contains g.uri u → g.uri.NamesFile r →
        r.startsWith p = false → p.startsWith r = false →
        DocumentFilter.claims w.selector params = false := by
  have among : (decide (h.folders.length > 1) && variant.isFull) = true := by
    simp [full]
    omega
  rw [selector, Options.selector_of_make made, own, among,
    DocumentFilter.claims_selectorFor root.path text names file.scheme file.path]
  constructor
  · intro routed language
    have inside := Workspace.contains_of_folderFor routed
    rw [Uri.startsWith_of_contains root.isLocalFile file.isLocalFile root.path file.path inside,
      Bool.and_true]
    cases stated : DocumentFilter.language? params with
    | none => rfl
    | some actual => simp [language actual stated]
  · intro g r _ inside place apart apart'
    have below :=
      Uri.startsWith_of_contains place.isLocalFile file.isLocalFile place.path file.path inside
    have outside : q.startsWith p = false := by
      by_contra inner
      rw [Bool.not_eq_false, Path.startsWith, List.isPrefixOf_iff_prefix] at inner
      rw [Path.startsWith, List.isPrefixOf_iff_prefix] at below
      -- two directories above one file are above one another
      rcases List.prefix_or_prefix_of_prefix inner below with above | above
      · simp [Path.startsWith, List.isPrefixOf_iff_prefix.2 above] at apart
      · simp [Path.startsWith, List.isPrefixOf_iff_prefix.2 above] at apart'
    rw [outside, Bool.and_false]

/-- A file on the local host, by the segments of its path. -/
def localFile (segments : List String) : Uri :=
  ⟨"file", some Uri.noHost, .segments segments, none, none⟩

/-- A folder that is written with an escape and a slash at its end. -/
def spacedFolder : Folder := ⟨localFile ["a%20b", ""], "spaced"⟩

/-- A folder apart from it. -/
def otherFolder : Folder := ⟨localFile ["c"], "other"⟩

/-- Surroundings with both folders open. -/
def twoFolders : Host where
  folders := [spacedFolder, otherFolder]
  settings _ := {}
  environment _ := .ok []
  interpreter _ := .ok none
  isSupported _ := true
  prefersSimple := false
  install _ _ := .ok ()
  serverFolder _ := none
  isRegistered _ := true
  quietTime := Host.usualQuietTime

/-- A scope in the first of them. -/
def spacedScope : Scope :=
  ⟨some (localFile ["a%20b", "m.py"]), some spacedFolder, ⟨"/usr/bin/python", none⟩⟩

/-- Call parameters that name a document. -/
def documentCall (uri : String) : Json := .obj [("textDocument", .obj [("uri", .str uri)])]

theorem claims_own_folder_spaced :
    ∃ options inputs, Options.make twoFolders .fullB spacedScope = .ok (options, inputs) ∧
      DocumentFilter.claims options.selector (documentCall "file:///a%20b//%6D.py") = true ∧
      DocumentFilter.claims options.selector (documentCall "file:///c/m.py") = false := by
  obtain ⟨⟨options, inputs⟩, made⟩ : ∃ o, Options.make twoFolders .fullB spacedScope = .ok o :=
    ⟨_, rfl⟩
  have spaced : spacedFolder.uri.NamesFile (Path.ofString "/a b/") :=
    ⟨⟨"file:///a%20b/", by decide +kernel⟩, rfl, by decide +kernel⟩
  have served {params : Json} {u : Uri} {q : Path} (names : DocumentFilter.Names params u)
      (file : u.NamesFile q) :=
    Middleware.claims_own_folder (w := { variant := .fullB, selector := options.selector }) made
      rfl (by decide) (by decide +kernel) spaced ⟨"/a b/".toList, rfl⟩ rfl names file
  refine ⟨options, inputs, made, ?routed, ?apart⟩
  case routed =>
    have file : (localFile ["a%20b", "", "%6D.py"]).NamesFile (Path.ofString "/a b//m.py") :=
      ⟨⟨"file:///a%20b//%6D.py", by decide +kernel⟩, rfl, by decide +kernel⟩
    have unstated : DocumentFilter.language? (documentCall "file:///a%20b//%6D.py") = none := rfl
    exact (served (by decide +kernel) file).1 (by decide +kernel) (by simp [unstated])
  case apart =>
    have file : (localFile ["c", "m.py"]).NamesFile (Path.ofString "/c/m.py") :=
      ⟨⟨"file:///c/m.py", by decide +kernel⟩, rfl, by decide +kernel⟩
    have other : otherFolder.uri.NamesFile (Path.ofString "/c") :=
      ⟨⟨"file:///c", by decide +kernel⟩, rfl, by decide +kernel⟩
    exact (served (by decide +kernel) file).2 otherFolder _ (by decide) (by decide +kernel) other
      (by decide +kernel) (by decide +kernel)

end LanguageBroker
