import LanguageBroker.Delivery
import Mathlib.Tactic.Common

/-!
What the journal of a site tells about one server. Servers are told apart by their names, so the
names that `Site.create` gives have to be new, also beside those of servers that were asked for in
vain. The counts below are the calls that a server has seen; a call counts when it is made.
-/

namespace LanguageBroker

namespace BackendEvent

def isStart : BackendEvent → Bool
  | .start _ => true
  | _ => false

def isStarted : BackendEvent → Bool
  | .started => true
  | _ => false

def isDispose : BackendEvent → Bool
  | .dispose => true
  | _ => false

/-- Is it about a call? -/
def isCall : BackendEvent → Bool
  | .call .. | .cancelled _ | .dropped _ => true
  | _ => false

end BackendEvent

/-- The event, if it is about the server of that name. -/
def Happening.about? (name : BackendName) : Happening → Option BackendEvent
  | .backend n e => if n = name then some e else none
  | .asked .. => none

namespace Site

/-- What has happened to the server of that name. -/
def eventsOf (s : Site) (name : BackendName) : List BackendEvent :=
  s.journal.filterMap fun h => h.2.about? name

/-- What has happened to the server of that name besides calls. -/
def life (s : Site) (name : BackendName) : List BackendEvent :=
  (s.eventsOf name).filter fun e => !e.isCall

/-- How many events of a kind a server has seen. -/
def tally (s : Site) (p : BackendEvent → Bool) (b : BackendId) : Nat :=
  match s.backend? b with
  | some x => (s.eventsOf x.name).countP p
  | none => 0

def starts (s : Site) (b : BackendId) : Nat := s.tally BackendEvent.isStart b

def disposals (s : Site) (b : BackendId) : Nat := s.tally BackendEvent.isDispose b

/-- Has the server come up? -/
def hasStarted (s : Site) (b : BackendId) : Prop := 0 < s.tally BackendEvent.isStarted b

/-- Its start was called and its disposal was not. -/
def isLive (s : Site) (b : BackendId) : Prop := 0 < s.starts b ∧ s.disposals b = 0

/-- Names are given once, and nothing is written about a name before it is given. -/
structure Named (s : Site) : Prop where
  unique : ∀ {b c x y}, s.backend? b = some x → s.backend? c = some y → x.name = y.name → b = c
  counted : ∀ {b x}, s.backend? b = some x →
    x.name.number ≤ s.asked.count (x.name.variant, x.name.key)
  noted : ∀ {t n e}, (t, Happening.backend n e) ∈ s.journal →
    n.number ≤ s.asked.count (n.variant, n.key)

theorem lt_of_backend? {s : Site} {b : BackendId} {x : Backend} (h : s.backend? b = some x) :
    b < s.backends.length := (List.getElem?_eq_some_iff.mp h).1

theorem exists_backend {s : Site} {b : BackendId} (h : b < s.backends.length) :
    ∃ x, s.backend? b = some x := ⟨_, List.getElem?_eq_getElem h⟩

theorem tally_of_ge {s : Site} {b : BackendId} (h : s.backends.length ≤ b)
    (p : BackendEvent → Bool) : s.tally p b = 0 := by
  simp [tally, backend?, List.getElem?_eq_none h]

/-! Notes about servers. -/

@[simp] theorem backend?_noteBackend (s : Site) (c : BackendId) (e : BackendEvent)
    (b : BackendId) : (s.noteBackend c e).backend? b = s.backend? b := by
  unfold noteBackend
  split <;> rfl

@[simp] theorem backends_noteBackend (s : Site) (c : BackendId) (e : BackendEvent) :
    (s.noteBackend c e).backends = s.backends := by
  unfold noteBackend
  split <;> rfl

@[simp] theorem asked_noteBackend (s : Site) (c : BackendId) (e : BackendEvent) :
    (s.noteBackend c e).asked = s.asked := by
  unfold noteBackend
  split <;> rfl

theorem tally_noteBackend {s : Site} (named : s.Named) {c : BackendId}
    (made : c < s.backends.length) (e : BackendEvent) (p : BackendEvent → Bool) (b : BackendId) :
    (s.noteBackend c e).tally p b = s.tally p b + if b = c ∧ p e then 1 else 0 := by
  obtain ⟨y, hy⟩ := exists_backend made
  unfold tally
  rw [backend?_noteBackend]
  cases hx : s.backend? b with
  | none =>
    have other : b ≠ c := fun same => by simp [same, hy] at hx
    simp [other]
  | some x =>
    by_cases same : b = c
    · subst same
      obtain rfl : y = x := Option.some.inj (hy.symm.trans hx)
      cases he : p e <;>
        simp [noteBackend, hy, eventsOf, note, Happening.about?, List.filterMap_append, he]
    · have apart : ¬ y.name = x.name := fun h => same (named.unique hx hy h.symm)
      simp [noteBackend, hy, eventsOf, note, Happening.about?, List.filterMap_append, same, apart]

theorem named_noteBackend {s : Site} (named : s.Named) (c : BackendId) (e : BackendEvent) :
    (s.noteBackend c e).Named where
  unique hx hy same := named.unique (by simpa using hx) (by simpa using hy) same
  counted hx := by
    rw [asked_noteBackend]
    exact named.counted (by simpa using hx)
  noted {t n f} h := by
    rw [asked_noteBackend]
    unfold noteBackend at h
    split at h
    · next y hy =>
      have cases : (t, Happening.backend n f) ∈ s.journal ∨ n = y.name := by
        simp only [note, List.mem_append, List.mem_singleton, Prod.mk.injEq,
          Happening.backend.injEq] at h
        tauto
      rcases cases with old | rfl
      · exact named.noted old
      · exact named.counted hy
    · exact named.noted h

/-! Changes of a middleware. -/

theorem backend?_modifyMiddleware (s : Site) (c : BackendId) (f : Middleware → Middleware)
    (b : BackendId) : (s.modifyMiddleware c f).backend? b =
      (s.backend? b).map fun x => if b = c then { x with middleware := f x.middleware } else x := by
  simp only [modifyMiddleware, backend?, List.getElem?_modify]
  by_cases h : c = b
  · simp [h]
  · simp [h, Ne.symm h]

theorem name_modifyMiddleware (s : Site) (c : BackendId) (f : Middleware → Middleware)
    (b : BackendId) : ((s.modifyMiddleware c f).backend? b).map (·.name) =
      (s.backend? b).map (·.name) := by
  rw [backend?_modifyMiddleware, Option.map_map]
  congr 1
  funext x
  by_cases h : b = c <;> simp [h]

@[simp] theorem length_modifyMiddleware (s : Site) (c : BackendId) (f : Middleware → Middleware) :
    (s.modifyMiddleware c f).backends.length = s.backends.length := by
  simp [modifyMiddleware]

theorem tally_eq (s : Site) (p : BackendEvent → Bool) (b : BackendId) :
    s.tally p b = (((s.backend? b).map (·.name)).map fun n => (s.eventsOf n).countP p).getD 0 := by
  unfold tally
  cases s.backend? b <;> rfl

/-- Only names and the journal count. -/
theorem tally_congr {s t : Site} (names : ∀ b, (t.backend? b).map (·.name) =
    (s.backend? b).map (·.name)) (journal : t.journal = s.journal) (p : BackendEvent → Bool)
    (b : BackendId) : t.tally p b = s.tally p b := by
  rw [tally_eq, tally_eq, names]
  simp [eventsOf, journal]

theorem Named.congr {s t : Site} (named : s.Named) (names : ∀ b, (t.backend? b).map (·.name) =
    (s.backend? b).map (·.name)) (journal : t.journal = s.journal) (asked : t.asked = s.asked) :
    t.Named where
  unique {b c x y} hx hy same := by
    have nx := names b
    have ny := names c
    rw [hx, Option.map_some] at nx
    rw [hy, Option.map_some] at ny
    obtain ⟨x', hx', eq⟩ := Option.map_eq_some_iff.mp nx.symm
    obtain ⟨y', hy', eq'⟩ := Option.map_eq_some_iff.mp ny.symm
    exact named.unique hx' hy' (by rw [eq, eq', same])
  counted {b x} hx := by
    have nx := names b
    rw [hx, Option.map_some] at nx
    obtain ⟨x', hx', eq⟩ := Option.map_eq_some_iff.mp nx.symm
    rw [asked, ← eq]
    exact named.counted hx'
  noted h := by
    rw [asked]
    exact named.noted (journal ▸ h)

theorem tally_modifyMiddleware (s : Site) (c : BackendId) (f : Middleware → Middleware)
    (p : BackendEvent → Bool) (b : BackendId) :
    (s.modifyMiddleware c f).tally p b = s.tally p b :=
  tally_congr (name_modifyMiddleware s c f) rfl p b

theorem named_modifyMiddleware {s : Site} (named : s.Named) (c : BackendId)
    (f : Middleware → Middleware) : (s.modifyMiddleware c f).Named :=
  named.congr (name_modifyMiddleware s c f) rfl rfl

/-- The same servers with the same past. The clock and the surroundings may differ. -/
structure SameServers (s t : Site) : Prop where
  backends : t.backends = s.backends
  journal : t.journal = s.journal
  asked : t.asked = s.asked

namespace SameServers

variable {s t : Site}

theorem names (h : SameServers s t) (b : BackendId) :
    (t.backend? b).map (·.name) = (s.backend? b).map (·.name) := by
  simp [backend?, h.backends]

theorem tally (h : SameServers s t) (p : BackendEvent → Bool) (b : BackendId) :
    t.tally p b = s.tally p b :=
  tally_congr h.names h.journal p b

theorem named (h : SameServers s t) (named : s.Named) : t.Named :=
  named.congr h.names h.journal h.asked

end SameServers

/-! Making a server. -/

/-- The name for the next server of that variant and scope. -/
def nextName (s : Site) (variant : Variant) (key : ScopeKey) : BackendName :=
  ⟨variant, key, s.asked.count (variant, key) + 1⟩

theorem create_asked (s : Site) (variant : Variant) (scope : Scope) :
    (s.create variant scope).1.asked = s.asked ++ [(variant, scope.key)] := by
  unfold create
  dsimp only
  split <;> rfl

theorem create_journal (s : Site) (variant : Variant) (scope : Scope) :
    (s.create variant scope).1.journal =
      s.journal ++ [(s.clock.now, .backend (s.nextName variant scope.key) .create)] := by
  unfold create
  dsimp only
  split <;> rfl

/-- A server is made at the end of the list, or none is made. -/
theorem create_cases (s : Site) (variant : Variant) (scope : Scope) :
    (∃ e, (s.create variant scope).2 = .error e ∧
      (s.create variant scope).1.backends = s.backends) ∨
    (∃ x : Backend, x.name = s.nextName variant scope.key ∧
      (s.create variant scope).2 = .ok s.backends.length ∧
      (s.create variant scope).1.backends = s.backends ++ [x]) := by
  unfold create
  dsimp only
  split
  · exact .inl ⟨_, rfl, rfl⟩
  · exact .inr ⟨_, rfl, rfl, rfl⟩

theorem create_error {s t : Site} {variant : Variant} {scope : Scope} {e : BackendError}
    (h : s.create variant scope = (t, .error e)) : t.backends = s.backends := by
  rcases create_cases s variant scope with ⟨e, out, same⟩ | ⟨x, name, out, more⟩
  · simpa [h] using same
  · simp [h] at out

theorem create_ok {s t : Site} {variant : Variant} {scope : Scope} {b : BackendId}
    (h : s.create variant scope = (t, .ok b)) :
    b = s.backends.length ∧ t.backends.length = s.backends.length + 1 := by
  rcases create_cases s variant scope with ⟨e, out, same⟩ | ⟨x, name, out, more⟩
  · simp [h] at out
  · simp only [h, Except.ok.injEq] at out
    rw [h] at more
    simp only at more
    exact ⟨out, by simp [more]⟩

/-- A server of the new site is an old one or bears the new name. -/
theorem backend?_create {s : Site} {variant : Variant} {scope : Scope} {b : BackendId}
    {x : Backend} (h : (s.create variant scope).1.backend? b = some x) :
    s.backend? b = some x ∨ b = s.backends.length ∧ x.name = s.nextName variant scope.key := by
  rcases create_cases s variant scope with ⟨e, out, same⟩ | ⟨y, name, out, more⟩
  · left
    simpa [backend?, same] using h
  · simp only [backend?, more] at h
    by_cases old : b < s.backends.length
    · left
      simpa [backend?, List.getElem?_append_left old] using h
    · right
      have above : s.backends.length ≤ b := Nat.le_of_not_lt old
      rw [List.getElem?_append_right above, List.getElem?_singleton] at h
      split at h
      · next last =>
        obtain rfl := Option.some.inj h
        exact ⟨Nat.le_antisymm (Nat.le_of_sub_eq_zero last) above, name⟩
      · simp at h

theorem eventsOf_noteBackend {s : Site} {b : BackendId} {x : Backend}
    (found : s.backend? b = some x) (e : BackendEvent) (name : BackendName) :
    (s.noteBackend b e).eventsOf name =
      s.eventsOf name ++ if x.name = name then [e] else [] := by
  by_cases same : x.name = name <;>
    simp [noteBackend, found, eventsOf, note, List.filterMap_append, Happening.about?, same]

theorem eventsOf_create (s : Site) (variant : Variant) (scope : Scope) (name : BackendName) :
    (s.create variant scope).1.eventsOf name =
      s.eventsOf name ++ if s.nextName variant scope.key = name then [.create] else [] := by
  simp only [eventsOf, create_journal, List.filterMap_append]
  by_cases same : s.nextName variant scope.key = name <;> simp [Happening.about?, same]

/-- Nothing was written about a name that is not given yet. -/
theorem eventsOf_nextName {s : Site} (named : s.Named) (variant : Variant) (key : ScopeKey) :
    s.eventsOf (s.nextName variant key) = [] := by
  unfold eventsOf
  rw [List.filterMap_eq_nil_iff]
  rintro ⟨t, h⟩ mem
  cases h with
  | asked v k => rfl
  | backend n e =>
    have bound := named.noted mem
    have other : n ≠ s.nextName variant key := by
      rintro rfl
      simp only [nextName] at bound
      omega
    simp [Happening.about?, other]

theorem name_ne_nextName {s : Site} (named : s.Named) {b : BackendId} {x : Backend}
    (h : s.backend? b = some x) (variant : Variant) (key : ScopeKey) :
    x.name ≠ s.nextName variant key := by
  intro same
  have bound := named.counted h
  simp only [same, nextName] at bound
  omega

theorem tally_create {s : Site} (named : s.Named) (variant : Variant) (scope : Scope)
    {p : BackendEvent → Bool} (silent : p .create = false) (b : BackendId) :
    (s.create variant scope).1.tally p b = s.tally p b := by
  have count (name : BackendName) : ((s.create variant scope).1.eventsOf name).countP p =
      (s.eventsOf name).countP p := by
    rw [eventsOf_create]
    split <;> simp [silent]
  cases found : (s.create variant scope).1.backend? b with
  | some x =>
    simp only [tally, found, count]
    rcases backend?_create found with old | ⟨rfl, name⟩
    · simp [old]
    · have fresh : s.backend? s.backends.length = none := List.getElem?_eq_none (Nat.le_refl _)
      simp [fresh, name, eventsOf_nextName named]
  | none =>
    have short : s.backends.length ≤ b := by
      have out := List.getElem?_eq_none_iff.mp found
      rcases create_cases s variant scope with ⟨e, _, same⟩ | ⟨y, _, _, more⟩
      · rwa [same] at out
      · rw [more, List.length_append] at out
        omega
    rw [tally_of_ge short]
    simp [tally, found]

theorem named_create {s : Site} (named : s.Named) (variant : Variant) (scope : Scope) :
    (s.create variant scope).1.Named where
  unique {b c x y} hx hy same := by
    rcases backend?_create hx with oldx | ⟨rfl, namex⟩ <;>
      rcases backend?_create hy with oldy | ⟨rfl, namey⟩
    · exact named.unique oldx oldy same
    · exact absurd (same.trans namey) (name_ne_nextName named oldx _ _)
    · exact absurd (same.symm.trans namex) (name_ne_nextName named oldy _ _)
    · rfl
  counted {b x} hx := by
    rw [create_asked, List.count_append]
    rcases backend?_create hx with old | ⟨rfl, name⟩
    · exact Nat.le_add_right_of_le (named.counted old)
    · simp [name, nextName]
  noted {t n e} h := by
    rw [create_asked, List.count_append]
    have cases : (t, Happening.backend n e) ∈ s.journal ∨ n = s.nextName variant scope.key := by
      simp only [create_journal, List.mem_append, List.mem_singleton, Prod.mk.injEq,
        Happening.backend.injEq] at h
      tauto
    rcases cases with old | rfl
    · exact Nat.le_add_right_of_le (named.noted old)
    · simp [nextName]

/-! The calls that jobs make. -/

theorem beginStart_site (s : Site) (b : BackendId) (options : Options) :
    (s.beginStart b options).1 = s.noteBackend b (.start options) := rfl

theorem beginDispose_site (s : Site) (b : BackendId) :
    (s.beginDispose b).1 = (s.modifyMiddleware b (·.disconnect)).noteBackend b .dispose := rfl

@[simp] theorem length_beginDispose (s : Site) (b : BackendId) :
    (s.beginDispose b).1.backends.length = s.backends.length := by
  simp [beginDispose_site]

theorem named_beginDispose {s : Site} (named : s.Named) (b : BackendId) :
    (s.beginDispose b).1.Named :=
  named_noteBackend (named_modifyMiddleware named b _) b .dispose

theorem tally_beginDispose {s : Site} (named : s.Named) {b : BackendId}
    (made : b < s.backends.length) (p : BackendEvent → Bool) (c : BackendId) :
    (s.beginDispose b).1.tally p c = s.tally p c + if c = b ∧ p .dispose then 1 else 0 := by
  rw [beginDispose_site, tally_noteBackend (named_modifyMiddleware named b _) (by simpa using made),
    tally_modifyMiddleware]

theorem disposals_beginDispose {s : Site} (named : s.Named) {b : BackendId}
    (made : b < s.backends.length) (c : BackendId) :
    (s.beginDispose b).1.disposals c = s.disposals c + if c = b then 1 else 0 := by
  rw [disposals, tally_beginDispose named made]
  simp [disposals, BackendEvent.isDispose]

/-- The end of a start is noted, and the middleware may change. -/
theorem endStart_cases (s : Site) (b : BackendId) (options : Options) :
    (s.backend? b = none ∧ s.endStart b options = (s, .ok ())) ∨
    (∃ e, s.endStart b options = (s.noteBackend b .failed, .error e)) ∨
    (∃ f, s.endStart b options =
      ((s.noteBackend b .started).modifyMiddleware b f, .ok ())) := by
  unfold endStart
  split
  · next none => exact .inl ⟨none, rfl⟩
  · split
    · exact .inr (.inl ⟨_, rfl⟩)
    · exact .inr (.inr ⟨_, rfl⟩)

@[simp] theorem length_endStart (s : Site) (b : BackendId) (options : Options) :
    (s.endStart b options).1.backends.length = s.backends.length := by
  rcases endStart_cases s b options with ⟨_, same⟩ | ⟨e, same⟩ | ⟨f, same⟩ <;> simp [same]

theorem named_endStart {s : Site} (named : s.Named) (b : BackendId) (options : Options) :
    (s.endStart b options).1.Named := by
  rcases endStart_cases s b options with ⟨_, same⟩ | ⟨e, same⟩ | ⟨f, same⟩ <;> rw [same]
  · exact named
  · exact named_noteBackend named b _
  · exact named_modifyMiddleware (named_noteBackend named b _) b f

theorem tally_endStart {s : Site} (named : s.Named) {b : BackendId}
    (made : b < s.backends.length) (options : Options) {p : BackendEvent → Bool}
    (failed : p .failed = false) (started : p .started = false) (c : BackendId) :
    (s.endStart b options).1.tally p c = s.tally p c := by
  rcases endStart_cases s b options with ⟨_, same⟩ | ⟨e, same⟩ | ⟨f, same⟩ <;> rw [same]
  · simp [tally_noteBackend named made, failed]
  · simp [tally_modifyMiddleware, tally_noteBackend named made, started]

theorem hasStarted_endStart {s t : Site} (named : s.Named) {b : BackendId}
    (made : b < s.backends.length) {options : Options} (up : s.endStart b options = (t, .ok ())) :
    t.hasStarted b := by
  obtain ⟨x, hx⟩ := exists_backend made
  rcases endStart_cases s b options with ⟨none, _⟩ | ⟨e, same⟩ | ⟨f, same⟩
  · simp [hx] at none
  · simp [same] at up
  · obtain rfl : _ = t := (Prod.mk.inj (same.symm.trans up)).1
    simp [hasStarted, tally_modifyMiddleware, tally_noteBackend named made,
      BackendEvent.isStarted]

@[simp] theorem length_endDispose (s : Site) (b : BackendId) :
    (s.endDispose b).backends.length = s.backends.length := by
  unfold endDispose
  split
  · split <;> simp
  · rfl

theorem named_endDispose {s : Site} (named : s.Named) (b : BackendId) :
    (s.endDispose b).Named := by
  unfold endDispose
  split
  · split
    · exact named
    · exact named_noteBackend named b _
  · exact named

theorem tally_endDispose {s : Site} (named : s.Named) {b : BackendId} {p : BackendEvent → Bool}
    (silent : p .disposed = false) (c : BackendId) :
    (s.endDispose b).tally p c = s.tally p c := by
  unfold endDispose
  split
  · next x hx =>
    split
    · rfl
    · simp [tally_noteBackend named (lt_of_backend? hx), silent]
  · rfl

/-! Calls, questions and telemetry are nothing to a server's life. -/

/-- The same servers, and nothing has happened to them but calls. -/
structure Calm (s t : Site) : Prop where
  names : ∀ b, (t.backend? b).map (·.name) = (s.backend? b).map (·.name)
  asked : t.asked = s.asked
  life : ∀ name, t.life name = s.life name
  named : s.Named → t.Named

namespace Calm

variable {s t u : Site}

theorem refl (s : Site) : s.Calm s := ⟨fun _ => rfl, rfl, fun _ => rfl, id⟩

theorem trans (h : s.Calm t) (h' : t.Calm u) : s.Calm u where
  names b := (h'.names b).trans (h.names b)
  asked := h'.asked.trans h.asked
  life name := (h'.life name).trans (h.life name)
  named := h'.named ∘ h.named

theorem tally (h : s.Calm t) {p : BackendEvent → Bool} (calls : ∀ e, e.isCall → p e = false)
    (b : BackendId) : t.tally p b = s.tally p b := by
  have count (u : Site) (name : BackendName) :
      (u.eventsOf name).countP p = (u.life name).countP p := by
    rw [Site.life, List.countP_filter]
    refine List.countP_congr fun e _ => ?_
    cases call : e.isCall <;> simp [calls, call]
  simp only [tally_eq, count, h.names, h.life]

/-- Only the journal may be longer, and not about servers. -/
theorem of_journal (backends : t.backends = s.backends) (asked : t.asked = s.asked)
    (journal : t.journal = s.journal ∨ ∃ time variant key,
      t.journal = s.journal ++ [(time, .asked variant key)]) : s.Calm t := by
  have found (b : BackendId) : t.backend? b = s.backend? b := by simp [backend?, backends]
  have events (name : BackendName) : t.eventsOf name = s.eventsOf name := by
    rcases journal with same | ⟨time, variant, key, more⟩
    · simp [eventsOf, same]
    · simp [eventsOf, more, List.filterMap_append, Happening.about?]
  refine ⟨fun b => by rw [found], asked, fun name => by rw [Site.life, Site.life, events],
    fun named => ⟨fun hx hy => ?_, fun hx => ?_, fun {time n e} mem => ?_⟩⟩
  · exact named.unique (found _ ▸ hx) (found _ ▸ hy)
  · exact asked ▸ named.counted (found _ ▸ hx)
  · rw [asked]
    rcases journal with same | ⟨_, _, _, more⟩
    · exact named.noted (same ▸ mem)
    · exact named.noted (by simpa [more] using mem)

theorem noteBackend (s : Site) (b : BackendId) {e : BackendEvent} (call : e.isCall) :
    s.Calm (s.noteBackend b e) where
  names c := by rw [backend?_noteBackend]
  asked := asked_noteBackend s b e
  life name := by
    cases found : s.backend? b with
    | none => simp [Site.noteBackend, found]
    | some x =>
      rw [Site.life, eventsOf_noteBackend found, List.filter_append]
      split <;> simp [call, Site.life]
  named named := named_noteBackend named b e

theorem modifyMiddleware (s : Site) (b : BackendId) (f : Middleware → Middleware) :
    s.Calm (s.modifyMiddleware b f) where
  names := name_modifyMiddleware s b f
  asked := rfl
  life _ := rfl
  named named := named_modifyMiddleware named b f

theorem emit (s : Site) (e : TelemetryEvent) : s.Calm (s.emit e) := of_journal rfl rfl (.inl rfl)

theorem settleCall (s : Site) (b : BackendId) (method : Method) (start : Time)
    (result : CallResult) : s.Calm (s.settleCall b method start result) := by
  unfold Site.settleCall
  split
  · exact refl s
  · dsimp only
    split
    · exact (modifyMiddleware s b _).trans (emit _ _)
    · exact modifyMiddleware s b _

theorem beginCall (s : Site) (b : BackendId) (method : Method) (params : Json) :
    s.Calm (s.beginCall b method params).1 := by
  unfold Site.beginCall
  split
  · exact refl s
  · split
    · exact noteBackend s b rfl
    · exact refl s

theorem endCall (s : Site) (d : Delivery) : s.Calm (s.endCall d).1 := settleCall ..

theorem cancelCall (s : Site) (d : Delivery) : s.Calm (s.cancelCall d).1 := by
  have noted := noteBackend s d.backend (e := .cancelled d.method) rfl
  exact noted.trans (settleCall _ d.backend d.method d.start Delivery.givenUp)

theorem length (h : s.Calm t) : t.backends.length = s.backends.length := by
  have same (b : BackendId) : t.backends.length ≤ b ↔ s.backends.length ≤ b := by
    have names := h.names b
    rw [← List.getElem?_eq_none_iff, ← List.getElem?_eq_none_iff]
    unfold backend? at names
    constructor <;> intro none
    · rw [none, Option.map_none] at names
      exact Option.map_eq_none_iff.mp names.symm
    · rw [none, Option.map_none] at names
      exact Option.map_eq_none_iff.mp names
  exact Nat.le_antisymm ((same _).mpr (Nat.le_refl _)) ((same _).mp (Nat.le_refl _))

theorem disposals (h : s.Calm t) (b : BackendId) : t.disposals b = s.disposals b :=
  h.tally (fun e call => by cases e <;> simp_all [BackendEvent.isCall, BackendEvent.isDispose]) b

theorem hasStarted (h : s.Calm t) (b : BackendId) : t.hasStarted b ↔ s.hasStarted b := by
  have same := h.tally (p := BackendEvent.isStarted) (fun e call => by
    cases e <;> simp_all [BackendEvent.isCall, BackendEvent.isStarted]) b
  simp only [Site.hasStarted, same]

end Calm

end Site

end LanguageBroker
