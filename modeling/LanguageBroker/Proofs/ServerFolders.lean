import LanguageBroker.Proofs.SimpleStarts
import LanguageBroker.Proofs.WatchedOptions

/-!
The folders that full servers are started with. A scope has the folder that was the deepest one
around its resource when it was located, and its activation is cached under that folder. Whenever
a server is made for the activation, at first or for a restart, the folder is looked up anew. So
servers keep to the folder of their key as long as the surroundings answer for the resource as they
did when the scope was located, and take to another folder when that one is the deepest by then.
-/

namespace LanguageBroker

namespace Manager

variable {m n : Manager} {s : Site} {lost : Prop}

theorem Scoped.turn (own : m.Scoped) (lined : m.Lined) (turn : Turn lost s m n) : n.Scoped := by
  cases turn with
  | step found _ step => exact own.jobStep found step
  | shift shift =>
    cases shift with
    | aside aside => exact own.aside aside
    | forget => exact own.forget _
    | ask => exact own.aside (lined.asks (P := fun _ => True) trivial)
    | @clean j => exact (own.forget j).aside ((lined.forget j).asks (P := fun _ => True) trivial)

end Manager

namespace Broker

variable {b c d : Broker} {a : ActivationId} {s : BackendId} {sight : Option Sight} {host : Host}
  {scope : Scope} {stage : Activation.Stage}

/-! The scopes that options are worked out for. -/

/-- Everything is in order, and every manager's options are for the scope it was started for. -/
structure Suited (b : Broker) : Prop extends b.Ordered where
  own : ∀ {m : ManagerId} {n : Manager}, b.managers[m]? = some n → n.Scoped

namespace Suited

theorem change (h : b.Suited) (change : Change sight b c) : c.Suited where
  toSound := h.toSound.change change
  posted := h.posted.change h.toSound change
  own manager := by
    rcases (h.staffed.staffing h.kept change).before manager with
      ⟨x, hx, turn⟩ | ⟨_, ⟨variant, scope, rfl⟩, _⟩
    · exact (h.own hx).turn (h.kept.lined hx) turn
    · exact (Manager.scoped_new variant).aside
        ((Manager.lined_new variant).asks (P := fun _ => True) trivial)

theorem alike (h : b.Suited) (alike : Alike b c) : c.Suited where
  toSound := h.toSound.alike alike
  posted := h.posted.alike h.toSound alike
  own manager := by
    obtain ⟨x, hx, aside⟩ := alike.before manager
    exact (h.own hx).aside aside

theorem move (h : b.Suited) (next : Move) : (b.move next).Suited :=
  (h.kept.moves next).keeps h (fun h same => h.alike same) fun h change => h.change change

theorem run (h : b.Suited) (moves : List Move) : (b.run moves).Suited :=
  run_induction (fun _ next h => h.move next) h moves

end Suited

theorem suited_opening (host : Host) (plan : BackendName → Plan) (clock : Clock) :
    Suited (opening host plan clock) where
  toOrdered := ordered_opening host plan clock
  own manager := by simp [opening] at manager

/-! Where scopes come from. -/

theorem Locates.folder (located : Locates host scope) :
    scope.folder = host.folderFor scope.resource := by
  obtain ⟨resource, interpreter, located⟩ := located
  unfold locate at located
  split at located
  · obtain rfl := Except.ok.inj located
    rfl
  · split at located
    · simp at located
    · simp at located
    · obtain rfl := Except.ok.inj located
      rfl

/-- The surroundings in which the moves of a run take their steps. -/
def lookouts (b : Broker) : List Move → List Host
  | [] => []
  | next :: moves => b.lookout next :: lookouts (b.move next) moves

/-- An activation is an old one, or its scope was located in the surroundings. -/
theorem Course.file (course : Course sight host b d) (found : d.files[a]? = some (scope, stage)) :
    (∃ old, b.files[a]? = some (scope, old)) ∨ Locates host scope := by
  cases course with
  | @one t c _ change alike here =>
    have files : d.files = c.files := alike.activations
    rcases change.post (files ▸ found) with ⟨_, located⟩ | ⟨old, was, _⟩
    · exact .inr (here ▸ located)
    · exact .inl ⟨old, was⟩
  | @alone t w e x stale _ _ _ _ _ _ alike =>
    have files : d.files = (({ b with site := t } : Broker).forgetErrand w).files :=
      alike.activations
    rw [files, (files_forgetErrand _ w).1] at found
    exact .inl ⟨stage, found⟩

theorem Kept.located (h : b.Kept) (moves : List Move)
    (found : (b.run moves).files[a]? = some (scope, stage)) :
    (∃ old, b.files[a]? = some (scope, old)) ∨ ∃ host ∈ b.lookouts moves, Locates host scope := by
  induction moves generalizing b with
  | nil => exact .inl ⟨stage, found⟩
  | cons next moves ih =>
    rcases ih (h.move next) found with ⟨old, was⟩ | ⟨host, mem, located⟩
    · exact ((h.moves next).file was).imp_right fun located =>
        ⟨_, List.mem_cons_self, located⟩
    · exact .inr ⟨host, List.mem_cons_of_mem _ mem, located⟩

/-! The servers that are made. -/

/-- While an errand looks for an activation no server is made. -/
theorem backends_enter (b : Broker) (e : ErrandId) (host : Host) :
    (b.move (.enter e host)).site.backends = b.site.backends := by
  simp only [move]
  split
  · next looking =>
    obtain ⟨x, found, fresh, _⟩ := fresh_of_isLooking looking
    have here : (b.inHost host).errand? e = some x := found
    have same : ((b.inHost host).stepErrand e).site = (b.inHost host).site := by
      simp only [stepErrand, here, fresh, site_beginErrand]
    show ((b.inHost host).stepErrand e).site.backends = b.site.backends
    rw [same]
    rfl
  · rfl

/-- A server is made in the surroundings as they are. -/
theorem lookout_of_made {next : Move} {y : Backend} (new : b.site.backend? s = none)
    (made : (b.move next).site.backend? s = some y) : b.lookout next = b.site.host := by
  cases next with
  | enter e host =>
    rw [Site.backend?, backends_enter] at made
    simp [Site.backend?, made] at new
  | _ => rfl

theorem folder_of_make {h : Host} {variant : Variant} {options : Options} {inputs : Inputs}
    (worked : Options.make h variant scope = .ok (options, inputs)) :
    options.folder = h.folderFor scope.resource := by
  unfold Options.make at worked
  split at worked
  · simp at worked
  · obtain ⟨rfl, _⟩ := Prod.mk.inj (Except.ok.inj worked)
    rfl

/-- A full server is made for an activation of its key and started with the deepest folder around
the activation's resource. -/
theorem Suited.started (h : b.Suited) {next : Move} {y : Backend}
    (new : b.site.backend? s = none) (made : (b.move next).site.backend? s = some y)
    (full : y.name.variant.isFull) :
    ∃ (a : ActivationId) (scope : Scope) (stage : Activation.Stage) (m : ManagerId) (x : Job)
      (options : Options), b.files[a]? = some (scope, stage) ∧ stage.manager? = some m ∧
      b.Makes next m x s ∧ y.name.key = scope.key ∧
      (b.move next).site.life y.name = [.create, .start options] ∧
      options.folder = b.site.host.folderFor scope.resource := by
  obtain ⟨m, x, n, makes, manager, variant, ⟨scope, launches, key⟩, equips⟩ :=
    h.toSound.makes new made
  obtain ⟨aim, options, inputs, bound, worked, life⟩ := equips
  obtain ⟨k, _, also, job, _⟩ := makes.job
  obtain rfl := Option.some.inj (manager.symm.trans also)
  -- the options are for the scope that the job makes the server for
  have aims : x.aim? = some scope := by simp [Job.aim?, launches]
  have aimed := (h.own manager).aimed job aims
  obtain rfl : aim = scope := by
    have same := (h.own manager).scope.resolve_left (by simp [bound])
    exact Option.some.inj (bound.symm.trans (same.trans aimed))
  rcases h.kept.quiet manager with quiet | ⟨a, stage, at_stage, named⟩
  · have idle := quiet.makes job
    simp [Job.mayMake, launches] at idle
  · obtain ⟨⟨given, _⟩, file, rfl⟩ := Option.map_eq_some_iff.mp at_stage
    obtain rfl := (h.posted.aims file named manager (variant ▸ full)).bound aimed
    rw [lookout_of_made new made] at worked
    exact ⟨a, aim, _, m, x, options, file, named, makes, key, life, folder_of_make worked⟩

/-- Every full server is made by the manager of an activation, bears the activation's key and is
started with the folder that is then the deepest one around the activation's resource. The key has
the folder that was the deepest one when the scope was located. So the two are the same if the
surroundings have always answered alike for the resource. -/
theorem full_server_takes_deepest_folder (host : Host) (plan : BackendName → Plan) (clock : Clock)
    (moves : List Move) (next : Move) (s : BackendId) (y : Backend)
    (new : ((opening host plan clock).run moves).site.backend? s = none)
    (made : (((opening host plan clock).run moves).move next).site.backend? s = some y)
    (full : y.name.variant.isFull) :
    let start := opening host plan clock
    let b := start.run moves
    ∃ (a : ActivationId) (scope : Scope) (stage : Activation.Stage) (m : ManagerId) (x : Job)
      (options : Options), b.files[a]? = some (scope, stage) ∧ stage.manager? = some m ∧
      b.Makes next m x s ∧ y.name.key = scope.key ∧
      (b.move next).site.life y.name = [.create, .start options] ∧
      options.folder = b.site.host.folderFor scope.resource ∧
      (∃ located ∈ start.lookouts moves, scope.folder = located.folderFor scope.resource) ∧
      ((∀ h ∈ start.lookouts moves,
          h.folderFor scope.resource = b.site.host.folderFor scope.resource) →
        (options.folder.map (·.uri.text)).getD "" = y.name.key.folder) := by
  intro start b
  have suited : b.Suited := (suited_opening host plan clock).run moves
  obtain ⟨a, scope, stage, m, x, options, file, named, makes, key, life, folder⟩ :=
    suited.started new made full
  have origin : ∃ located ∈ start.lookouts moves,
      scope.folder = located.folderFor scope.resource := by
    rcases (kept_opening host plan clock).located moves file with
      ⟨old, was⟩ | ⟨located, mem, locates⟩
    · simp [opening, files] at was
    · exact ⟨located, mem, locates.folder⟩
  refine ⟨a, scope, stage, m, x, options, file, named, makes, key, life, folder, origin,
    fun agree => ?_⟩
  obtain ⟨located, mem, same⟩ := origin
  rw [folder, ← agree located mem, ← same, key]
  rfl

def outerFolder : Folder := ⟨⟨"file", some ⟨"", "", none⟩, .segments ["a"], none, none⟩, "a"⟩

def innerFolder : Folder := ⟨⟨"file", some ⟨"", "", none⟩, .segments ["a", "b"], none, none⟩, "b"⟩

/-- A file in both folders. -/
def script : Uri := ⟨"file", some ⟨"", "", none⟩, .segments ["a", "b", "x.py"], none, none⟩

/-- The outer folder is open, and a lookup of the file has started a full server. -/
def outerStart : List Move :=
  [.change { fullHost with folders := [outerFolder] } fun _ => {},
    .entrust (.find (some script) (some python)), .errand 0] ++
    List.replicate 10 (.agent (.activation 0))

/-- The inner folder is opened as well. A change of interpreters leads to a restart, up to the
step that makes the second server. -/
def innerRestart : List Move :=
  [.change { fullHost with folders := [outerFolder, innerFolder] } fun _ => {},
    .hear .interpreter, .agent (.manager 0 (.options .listen)), .agent (.manager 0 .forward),
    .wait 1000] ++ List.replicate 4 (.agent (.manager 0 .restart))

/-- The second server of the outer folder's activation is started with the inner folder. -/
theorem restart_takes_inner_folder :
    let b := (opening fullHost (fun _ => {}) {}).run (outerStart ++ innerRestart)
    let d := b.move (.agent (.manager 0 .restart))
    ∃ y options, b.site.backend? 1 = none ∧ d.site.backend? 1 = some y ∧ y.name.variant.isFull ∧
      y.name.key.folder = "file:///a" ∧ d.site.life y.name = [.create, .start options] ∧
      options.folder = some innerFolder := by
  intro b d
  have new : b.site.backend? 1 = none := by
    have none : (b.site.backend? 1).isNone := by decide +kernel
    simpa using none
  obtain ⟨y, made⟩ : ∃ y, d.site.backend? 1 = some y :=
    Option.isSome_iff_exists.mp (by decide +kernel)
  have full : y.name.variant.isFull := by
    have all : (d.site.backend? 1).all (·.name.variant.isFull) := by decide +kernel
    simpa [made] using all
  obtain ⟨a, scope, stage, _, _, options, file, _, _, key, life, folder, _⟩ :=
    full_server_takes_deepest_folder fullHost (fun _ => {}) {} (outerStart ++ innerRestart)
      (.agent (.manager 0 .restart)) 1 y new made full
  obtain rfl : scope = ⟨some script, some outerFolder, python⟩ := by
    have scopes : b.files.map (·.1) = [⟨some script, some outerFolder, python⟩] := by
      decide +kernel
    have mem : scope ∈ b.files.map (·.1) := List.mem_map.mpr ⟨_, List.mem_of_getElem? file, rfl⟩
    simpa [scopes] using mem
  have inner : b.site.host.folderFor (some script) = some innerFolder := by decide +kernel
  have outer : outerFolder.uri.text = "file:///a" := by decide
  exact ⟨y, options, new, made, full, (congrArg ScopeKey.folder key).trans outer, life,
    folder.trans inner⟩

end Broker

end LanguageBroker
