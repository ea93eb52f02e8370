import LanguageBroker.Proofs.PathComponents
import LanguageBroker.Uri.Parser
import LanguageBroker.Workspace

/-!
Files on the local host, as URIs and as paths. The text of such a URI is its scheme, an empty host
and its path, with a query or a fragment behind a mark that the path cannot hold. Percent-decoding
goes from slash to slash, so what the texts of two URIs have in common up to a slash their paths
have in common up to a separator.
-/

namespace LanguageBroker.Uri

open Text

/-! Reading. -/

/-- Can the character stand in a path? -/
def isPathChar (c : Char) : Bool := c != '?' && c != '#'

theorem isPathChar_of_ne {c : Char} (query : c ≠ '?') (fragment : c ≠ '#') : isPathChar c := by
  simp [isPathChar, query, fragment]

theorem isPathChar_upperHex {n : Nat} (digit : n < 16) : isPathChar (upperHex n) := by
  have all : ∀ m : Fin 16, isPathChar (upperHex m) := by decide
  exact all ⟨n, digit⟩

theorem isPathChar_percent {b : UInt8} {c : Char} (there : c ∈ percent b) : isPathChar c := by
  have small := b.toNat_lt
  simp only [percent, List.mem_cons, List.not_mem_nil, or_false] at there
  rcases there with rfl | rfl | rfl
  · decide
  · exact isPathChar_upperHex (by omega)
  · exact isPathChar_upperHex (by omega)

/-- The marks of queries and fragments are escaped in paths. -/
theorem isPathChar_percentEncode {cs : List Char} {c : Char}
    (there : c ∈ percentEncode inPathSet cs) : isPathChar c := by
  obtain ⟨d, -, here⟩ := List.mem_flatMap.1 there
  split at here
  · obtain ⟨b, -, here⟩ := List.mem_flatMap.1 here
    exact isPathChar_percent here
  · next kept =>
    obtain rfl := List.mem_singleton.1 here
    exact isPathChar_of_ne (by rintro rfl; simp [inPathSet] at kept)
      (by rintro rfl; simp [inPathSet] at kept)

/-- No segment holds a mark. -/
def Markless (segments : List (List Char)) : Prop := ∀ s ∈ segments, ∀ c ∈ s, isPathChar c

variable {segments : List (List Char)} {s : List Char}

theorem Markless.append (h : Markless segments) (last : ∀ c ∈ s, isPathChar c) :
    Markless (segments ++ [s]) := by
  intro t there
  rcases List.mem_append.1 there with there | there
  · exact h t there
  · exact List.mem_singleton.1 there ▸ last

theorem Markless.shorten (h : Markless segments) : Markless (shorten segments) := by
  unfold Uri.shorten
  split
  · exact h
  · exact fun t there => h t (List.dropLast_subset _ there)

theorem Markless.last (h : Markless segments) (isLast : Bool) :
    Markless (segments ++ if isLast then [[]] else []) := by
  cases isLast with
  | false => simpa using h
  | true => exact h.append (by simp)

theorem isPathChar_drive {source drive rest : List Char}
    (cut : cutDrive? source = some (drive, rest)) : ∀ c ∈ drive, isPathChar c := by
  unfold cutDrive? at cut
  split at cut
  · split at cut
    · next c d rest _ _ =>
      split at cut
      · next letter =>
        obtain ⟨rfl, -⟩ := Prod.mk.inj (Option.some.inj cut)
        have isAlpha : c.isAlpha = true := by simp_all
        intro e there
        simp only [List.mem_cons, List.not_mem_nil, or_false] at there
        rcases there with rfl | rfl
        · exact isPathChar_of_ne (by rintro rfl; exact absurd isAlpha (by decide))
            (by rintro rfl; exact absurd isAlpha (by decide))
        · decide
      · simp at cut
    · simp at cut
  · simp at cut

theorem Markless.add {r : PathReading} (h : Markless r.segments) (kind : SchemeKind)
    (source : List Char) (isLast : Bool) : Markless (r.add kind source isLast).segments := by
  have segment : ∀ c ∈ percentEncode inPathSet (unbroken source), isPathChar c :=
    fun _ => isPathChar_percentEncode
  unfold PathReading.add
  dsimp only
  split
  · next drive rest cut =>
    split
    · intro t there
      simp only [List.mem_cons, List.not_mem_nil, or_false] at there
      rcases there with rfl | rfl
      · exact isPathChar_drive cut
      · exact fun _ => isPathChar_percentEncode
    · exact h.append segment
  · split
    · exact h.shorten.last isLast
    · split
      · exact h.last isLast
      · split
        · intro t there c here
          obtain rfl := List.mem_singleton.1 there
          rcases List.mem_append.1 here with here | here
          · exact segment c (List.mem_of_mem_take here)
          · obtain rfl := List.mem_singleton.1 here
            decide
        · exact h.append segment

theorem Markless.addAll {r : PathReading} (h : Markless r.segments) (kind : SchemeKind)
    (sources : List (List Char)) : Markless (r.addAll kind sources).segments := by
  induction sources generalizing r with
  | nil => exact h
  | cons s rest ih =>
    cases rest with
    | nil => exact h.add kind s true
    | cons => exact ih (h.add kind s false)

theorem Markless.dropEmptyFront (h : Markless segments) (kind : SchemeKind) :
    Markless (dropEmptyFront kind segments) := by
  induction segments with
  | nil => exact h
  | cons s rest ih =>
    have others : Markless rest := fun t there => h t (List.mem_cons_of_mem _ there)
    unfold Uri.dropEmptyFront
    split
    · next same =>
      obtain ⟨rfl, rfl⟩ := List.cons.inj same
      split
      · exact ih others
      · exact h
    · exact h

theorem markless_readPath (kind : SchemeKind) (cs : List Char) :
    Markless (readPath kind cs).segments :=
  Markless.dropEmptyFront (Markless.addAll (by simp [Markless]) kind _) kind

/-- A path in segments, none of which holds a mark. -/
def MarklessPath : UriPath → Prop
  | .bare _ => False
  | .segments ss => ∀ s ∈ ss, ∀ c ∈ s.toList, isPathChar c

theorem markless_segmentsOf (kind : SchemeKind) (cs : List Char) :
    MarklessPath (segmentsOf kind cs) := by
  intro s there
  obtain ⟨t, here, rfl⟩ := List.mem_map.1 there
  simpa using markless_readPath kind cs t here

theorem markless_pathAfterHost (cs : List Char) : MarklessPath (pathAfterHost .file cs) := by
  cases cs with
  | nil => simp [pathAfterHost, SchemeKind.isSpecial, MarklessPath]
  | cons c rest => exact markless_segmentsOf .file _

/-- No host, or a host that is not the local one. -/
def IsFileHost (a : Authority) : Prop :=
  a = noHost ∨ ∃ host, host ≠ "localhost".toList ∧ a = ⟨"", String.ofList host, none⟩

theorem readFilePlace_cases {cs : List Char} {authority : Authority} {path : UriPath}
    (read : readFilePlace cs = .ok (authority, path)) :
    MarklessPath path ∧ IsFileHost authority := by
  unfold readFilePlace at read
  dsimp only at read
  split at read
  · obtain ⟨rfl, rfl⟩ := Prod.mk.inj (Except.ok.inj read)
    exact ⟨markless_segmentsOf .file _, .inl rfl⟩
  split at read
  · obtain ⟨rfl, rfl⟩ := Prod.mk.inj (Except.ok.inj read)
    exact ⟨markless_segmentsOf .file _, .inl rfl⟩
  cases found : readHost .file (unbroken (spanToSlash .file cs).1) with
  | error fault =>
    rw [found] at read
    cases read
  | ok host =>
    rw [found] at read
    simp only [bind, Except.bind, pure, Except.pure] at read
    split at read
    · obtain ⟨rfl, rfl⟩ := Prod.mk.inj (Except.ok.inj read)
      exact ⟨markless_segmentsOf .file _, .inl rfl⟩
    · next other =>
      obtain ⟨rfl, rfl⟩ := Prod.mk.inj (Except.ok.inj read)
      refine ⟨markless_pathAfterHost _, ?_⟩
      split
      · exact .inl rfl
      · exact .inr ⟨host, other, rfl⟩

theorem readFile_cases {cs : List Char} {authority : Authority} {path : UriPath}
    (read : readFile cs = .ok (authority, path)) : MarklessPath path ∧ IsFileHost authority := by
  unfold readFile at read
  split at read
  · obtain ⟨rfl, rfl⟩ := Prod.mk.inj (Except.ok.inj read)
    exact ⟨markless_segmentsOf .file _, .inl rfl⟩
  · split at read
    · obtain ⟨rfl, rfl⟩ := Prod.mk.inj (Except.ok.inj read)
      exact ⟨markless_segmentsOf .file _, .inl rfl⟩
    · exact readFilePlace_cases read

/-- A URI of a file on the local host: no host, and a path in which no mark stands. -/
structure IsLocalFile (u : Uri) : Prop where
  scheme : u.scheme = "file"
  authority : u.authority = some noHost
  path : MarklessPath u.path

theorem readBody_file {isFollowed : Bool} {cs : List Char} {authority : Option Authority}
    {path : UriPath} (read : readBody .file isFollowed cs = .ok (authority, path)) :
    MarklessPath path ∧ ∃ a, authority = some a ∧ IsFileHost a := by
  unfold readBody at read
  cases found : readFile cs with
  | error fault => simp [found, Except.map] at read
  | ok place =>
    obtain ⟨a, p⟩ := place
    simp only [found, Except.map] at read
    obtain ⟨rfl, rfl⟩ := Prod.mk.inj (Except.ok.inj read)
    obtain ⟨markless, host⟩ := readFile_cases found
    exact ⟨markless, a, rfl, host⟩

/-- A URI that was read and names a local file is written without a host. -/
theorem isLocalFile_of_parse? {text : String} {u : Uri} (parsed : parse? text = some u)
    (scheme : u.scheme = "file") (isLocal : u.toPath?.isSome) : u.IsLocalFile := by
  have parsed : parse text = .ok u := by
    unfold parse? at parsed
    cases found : parse text with
    | error fault => simp [found, Except.toOption] at parsed
    | ok v => simpa [found, Except.toOption] using parsed
  unfold parse at parsed
  split at parsed
  · simp at parsed
  · next name rest _ =>
    dsimp only at parsed
    cases body : readBody (schemeKind name) _ (splitTail (schemeKind name).isSpecial rest).1 with
    | error fault =>
      rw [body] at parsed
      cases parsed
    | ok place =>
      rw [body] at parsed
      obtain rfl := Except.ok.inj parsed
      obtain rfl : name = "file" := scheme
      obtain ⟨markless, a, there, host⟩ := readBody_file body
      refine ⟨rfl, ?_, markless⟩
      dsimp only
      rw [there]
      rcases host with rfl | ⟨host, other, rfl⟩
      · rfl
      · -- only the empty host is left, as the local one was left out
        have empty : host = [] := by
          by_contra shown
          have apart : String.ofList host ≠ "localhost" := fun same =>
            other (by rw [← same, String.toList_ofList])
          simp [toPath?, there, shown, apart] at isLocal
        rw [empty]
        rfl

/-! The text. -/

theorem toList_text_segments (ss : List String) :
    (UriPath.segments ss).text.toList = ss.flatMap fun s => '/' :: s.toList := by
  have front (acc : String) : (ss.foldl (fun acc s => acc ++ "/" ++ s) acc).toList
      = acc.toList ++ ss.flatMap fun s => '/' :: s.toList := by
    induction ss generalizing acc with
    | nil => simp
    | cons s ss ih => simp [ih]
  simpa [UriPath.text] using front ""

/-- Where the text of a local file's URI begins. -/
def fileMark : List Char := "file://".toList

namespace IsLocalFile

variable {u : Uri}

/-- Query and fragment stand behind a mark. -/
theorem text_eq (h : u.IsLocalFile) :
    ∃ tail, u.text.toList = fileMark ++ (u.path.text.toList ++ tail) ∧
      ∀ c ∈ tail.head?, isPathChar c = false := by
  obtain ⟨scheme, authority, path, query, fragment⟩ := u
  obtain rfl : scheme = "file" := h.scheme
  obtain rfl : authority = some noHost := h.authority
  have mark : fileMark = "file".toList ++ ":".toList ++ "//".toList := rfl
  cases query with
  | some q =>
    cases fragment with
    | some f =>
      exact ⟨'?' :: (q.toList ++ '#' :: f.toList), by simp [text, Authority.text, noHost, mark],
        by simp [isPathChar]⟩
    | none =>
      exact ⟨'?' :: q.toList, by simp [text, Authority.text, noHost, mark], by simp [isPathChar]⟩
  | none =>
    cases fragment with
    | some f =>
      exact ⟨'#' :: f.toList, by simp [text, Authority.text, noHost, mark], by simp [isPathChar]⟩
    | none => exact ⟨[], by simp [text, Authority.text, noHost, mark], by simp⟩

theorem pathChars (h : u.IsLocalFile) : ∀ c ∈ u.path.text.toList, isPathChar c := by
  have markless := h.path
  cases path : u.path with
  | bare t => simp [path, MarklessPath] at markless
  | segments ss =>
    rw [path] at markless
    intro c there
    rw [toList_text_segments] at there
    obtain ⟨s, inside, here⟩ := List.mem_flatMap.1 there
    rcases List.mem_cons.1 here with rfl | here
    · decide
    · exact markless s inside c here

end IsLocalFile

/-! Decoding. -/

theorem hexValue?_separator : hexValue? Path.separator = none := by decide

/-- A byte that begins no escape stays. -/
theorem percentDecode_cons {b : UInt8} {bytes : List UInt8}
    (plain : b = 0x25 → ∀ x y rest, bytes = x :: y :: rest →
      hexValue? x = none ∨ hexValue? y = none) :
    percentDecode (b :: bytes) = b :: percentDecode bytes := by
  rw [percentDecode.eq_def]
  split
  · next x y rest same =>
    obtain ⟨rfl, rfl⟩ := List.cons.inj same
    split
    · next first second =>
      rcases plain rfl x y rest rfl with none | none
      · simp [none] at first
      · simp [none] at second
    · rfl
  · next same =>
    obtain ⟨rfl, rfl⟩ := List.cons.inj same
    rfl
  · next same => simp at same

theorem percentDecode_separator (back : List UInt8) :
    percentDecode (Path.separator :: back) = Path.separator :: percentDecode back :=
  percentDecode_cons fun same => absurd same (by decide)

/-- A separator is no part of an escape. -/
theorem percentDecode_append (front back : List UInt8) :
    percentDecode (front ++ Path.separator :: back)
      = percentDecode front ++ Path.separator :: percentDecode back := by
  fun_induction percentDecode front with
  | case1 a b rest x y first second ih =>
    simp only [List.cons_append, percentDecode, first, second, ih]
  | case2 a b rest none ih =>
    rw [List.cons_append, percentDecode_cons, ih, List.cons_append]
    intro _ x y _ same
    simp only [List.cons_append, List.cons.injEq] at same
    obtain ⟨rfl, rfl, -⟩ := same
    cases first : hexValue? a with
    | none => exact .inl rfl
    | some x =>
      cases second : hexValue? b with
      | none => exact .inr rfl
      | some y => exact (none x y first second).elim
  | case3 b rest other ih =>
    rw [List.cons_append, percentDecode_cons, ih, List.cons_append]
    -- fewer than two bytes stand between a percent sign and the separator
    intro mark x y behind same
    match rest, other with
    | [], _ => exact .inl ((List.cons.inj same).1 ▸ hexValue?_separator)
    | [_], _ => exact .inr ((List.cons.inj (List.cons.inj same).2).1 ▸ hexValue?_separator)
    | a :: b :: left, other => exact (other a b left mark rfl).elim
  | case4 => exact percentDecode_separator back

/-! Paths. -/

/-- The components that a text names. -/
def named (cs : List Char) : List (List UInt8) := Path.names (percentDecode (encode cs))

@[simp] theorem named_nil : named [] = [] := rfl

theorem named_append (front back : List Char) :
    named (front ++ '/' :: back) = named front ++ named back := by
  rw [named, encode_append, encode_cons, encode_slash, List.singleton_append, percentDecode_append,
    Path.names_append]
  rfl

theorem named_append_slashes (front : List Char) (n : Nat) :
    named (front ++ List.replicate n '/') = named front := by
  induction n with
  | zero => simp
  | succ n ih =>
    rw [List.replicate_succ', ← List.append_assoc, named_append, ih, named_nil, List.append_nil]

/-- Segments can be decoded one by one or all at once. -/
theorem percentDecode_segments (ss : List String) :
    (ss.flatMap fun s => Path.separator :: percentDecode (encode s.toList))
      = percentDecode (encode (ss.flatMap fun s => '/' :: s.toList)) := by
  induction ss with
  | nil => rfl
  | cons s ss ih =>
    simp only [List.flatMap_cons, ih, List.cons_append, encode_cons, encode_slash, encode_append,
      List.nil_append, percentDecode_separator]
    cases ss with
    | nil => simp [percentDecode]
    | cons t ss =>
      simp only [List.flatMap_cons, List.cons_append, encode_cons, encode_slash, List.nil_append,
        percentDecode_append, percentDecode_separator]

/-- A path that a URI names begins with a separator, and its components are those that the URI's
text names. -/
theorem exists_of_toPath? {u : Uri} {p : Path} (path : u.toPath? = some p) :
    ∃ bytes, p = ⟨Path.separator :: bytes⟩ ∧ Path.names bytes = named u.path.text.toList := by
  unfold toPath? at path
  dsimp only at path
  split at path
  · cases shape : u.path with
    | bare t => simp [segments?, shape] at path
    | segments ss =>
      cases ss with
      | nil => simp [segments?, shape] at path
      | cons s ss =>
        simp only [segments?, shape, Option.map_some, Option.some.injEq] at path
        have text : (UriPath.segments (s :: ss)).text.toList
            = [] ++ '/' :: (s.toList ++ ss.flatMap fun s => '/' :: s.toList) := by
          rw [toList_text_segments, List.flatMap_cons, List.cons_append, List.nil_append]
        rw [percentDecode_segments, List.flatMap_cons, List.cons_append, encode_cons, encode_slash,
          List.singleton_append, percentDecode_separator] at path
        rw [text, named_append, named_nil, List.nil_append]
        -- behind a drive letter stands one more separator
        split at path
        · split at path
          · rw [← path, List.cons_append]
            exact ⟨_, rfl, Path.names_append_separators _ 1⟩
          · exact ⟨_, path.symm, rfl⟩
        · exact ⟨_, path.symm, rfl⟩
  · simp at path

theorem components_toPath? {u : Uri} {p : Path} (path : u.toPath? = some p) :
    p.components = [] :: named u.path.text.toList := by
  obtain ⟨bytes, rfl, names⟩ := exists_of_toPath? path
  rw [Path.components_absolute, names]

/-! Folders. -/

/-- What stands behind the mark of local files ends where the path ends. -/
theorem IsLocalFile.exists_rest {u : Uri} (h : u.IsLocalFile) :
    ∃ rest, u.text.toList = fileMark ++ rest ∧
      u.path.text.toList = rest.takeWhile isPathChar := by
  obtain ⟨tail, text, mark⟩ := h.text_eq
  refine ⟨_, text, ?_⟩
  rw [List.takeWhile_append_of_pos h.pathChars]
  cases tail with
  | nil => simp
  | cons c tail => simp [mark c rfl]

theorem takeWhile_slashes (n : Nat) :
    (List.replicate n '/').takeWhile isPathChar = List.replicate n '/' := by
  simp [isPathChar]

/-- The components that a folder's text names open those that the text of a URI in it names. -/
theorem named_of_contains {folder u : Uri} (outer : folder.IsLocalFile) (inner : u.IsLocalFile)
    (inside : Folder.contains folder u) :
    named folder.path.text.toList <+: named u.path.text.toList := by
  obtain ⟨rest, text, path⟩ := outer.exists_rest
  obtain ⟨rest', text', path'⟩ := inner.exists_rest
  obtain ⟨n, slashes⟩ := exists_slashes folder.text.toList
  change folder.text.toList = Folder.base folder ++ _ at slashes
  -- the URI's text is the folder's without its last slashes, alone or with a slash behind it
  obtain ⟨behind, whole, next⟩ : ∃ behind, u.text.toList = Folder.base folder ++ behind ∧
      ∀ c ∈ behind.head?, c = '/' := by
    unfold Folder.contains at inside
    split at inside
    · next found => exact ⟨_, eq_append_of_stripFront found, by simp⟩
    · next found => exact ⟨_, eq_append_of_stripFront found, by simpa using inside⟩
    · simp at inside
  rw [path, path']
  rcases List.append_eq_append_iff.1 (text.symm.trans slashes) with
    ⟨front, base, same⟩ | ⟨_, _, same⟩
  · rw [base, List.append_assoc, text', List.append_cancel_left_eq] at whole
    rw [same, whole, List.takeWhile_append, List.takeWhile_append]
    split
    · rw [takeWhile_slashes, named_append_slashes]
      cases behind with
      | nil => simp
      | cons c behind =>
        obtain rfl := next c rfl
        rw [List.takeWhile_cons_of_pos (by decide), named_append]
        exact List.prefix_append _ _
    · -- the path ends before the last slashes, so it is the same for both
      exact List.prefix_refl _
  · -- nothing but slashes stands behind the mark, so the folder is the root
    obtain ⟨-, -, root⟩ := List.replicate_eq_append_iff.1 same
    rw [root, takeWhile_slashes, ← List.nil_append (List.replicate _ _), named_append_slashes]
    exact List.nil_prefix

/-- What a folder contains lies below it. -/
theorem startsWith_of_contains {folder u : Uri} {p q : Path} (outer : folder.IsLocalFile)
    (inner : u.IsLocalFile) (root : folder.toPath? = some p) (path : u.toPath? = some q)
    (inside : Folder.contains folder u) : q.startsWith p := by
  rw [Path.startsWith, List.isPrefixOf_iff_prefix, components_toPath? root,
    components_toPath? path, List.prefix_cons_inj]
  exact named_of_contains outer inner inside

end LanguageBroker.Uri
