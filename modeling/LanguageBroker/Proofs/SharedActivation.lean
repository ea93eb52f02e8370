import Mathlib.Data.List.Induction
import Mathlib.Data.List.Infix
import LanguageBroker.Proofs.BrokerErrands
import LanguageBroker.Proofs.BrokerToil

/-!
Lookups. Whoever looks for a key while it is cached is led to the one activation that was begun
when the key came into the cache, and gets what this one comes to, also when that is an error.
-/

namespace LanguageBroker.Broker

/-- The scope that an errand is about to look for in these surroundings. -/
def sought? (b : Broker) (host : Host) (e : ErrandId) : Option Scope :=
  match b.errand? e with
  | some { stage := .fresh, task := .find resource interpreter, .. } =>
    (locate host resource interpreter).toOption
  | some { stage := .fresh, task := .prepare resource interpreter, .. } =>
    (locate host resource interpreter).toOption
  | _ => none

/-- The errand that looks for an activation in a move, and the scope that it looks for. -/
def lookup? (b : Broker) : Move → Option (ErrandId × Scope)
  | .errand e => if b.isWatched e then none else (b.sought? b.site.host e).map fun s => (e, s)
  | .enter e host => (b.sought? host e).map fun s => (e, s)
  | .agent .watch =>
    (b.watch.bind (·.sweep)).bind fun e => (b.sought? b.site.host e).map fun s => (e, s)
  | _ => none

/-- The errand waits for the activation or tells what this one has come to, unless its caller has
put it away. -/
def IsServed (b : Broker) (a : ActivationId) (e : ErrandId) : Prop :=
  ∀ stage, b.errandStage? e = some stage →
    stage = .awaiting a ∨ stage = .done (.prepared a) ∨ b.Tells a stage

structure Orderly (b : Broker) : Prop where
  kept : b.Kept
  filed : b.Filed
  numbered : b.IsNumbered

variable {b c d : Broker} {a : ActivationId} {e : ErrandId} {scope : Scope} {key : ScopeKey}
  {sight : Option Sight}

theorem orderly_opening (host : Host) (plan : BackendName → Plan) (clock : Clock) :
    Orderly (opening host plan clock) :=
  ⟨kept_opening .., filed_opening .., by simp [opening, IsNumbered, posts]⟩

theorem Orderly.move (h : b.Orderly) (next : Move) : (b.move next).Orderly where
  kept := h.kept.move next
  filed := h.filed.filing (h.kept.moves next).filing
  numbered := (h.kept.moves next).keeps h.numbered (fun h alike => h.posting alike.posting)
    fun h change => h.posting change.posting

theorem Orderly.run (h : b.Orderly) (moves : List Move) : (b.run moves).Orderly :=
  run_induction (P := Orderly) (fun _ next h => h.move next) h moves

/-! Errands that were served. -/

theorem Tells.filing (filing : Filing b c) {stage : Errand.Stage} (tells : b.Tells a stage) :
    c.Tells a stage := by
  have stays {result : Except ActivationError Record} (ended : b.result? a = some result) :
      c.result? a = some result :=
    result?_eq_some.mpr (filing.settled (result?_eq_some.mp ended))
  rcases tells with ⟨r, ended, same⟩ | ⟨cause, ended, same⟩
  · exact .inl ⟨r, stays ended, same⟩
  · exact .inr ⟨cause, stays ended, same⟩

/-- What an errand was led to stays the same. -/
theorem IsServed.posting (h : b.IsServed a e) (old : e < b.nextErrand) (posting : Posting b c)
    (filing : Filing b c) : c.IsServed a e := by
  intro stage found
  rcases posting.stage old found with same | ⟨before, was, goes⟩
  · exact (h stage same).imp_right (Or.imp_right (Tells.filing filing))
  · -- of the stages in question only waiting leads on, and it leads to the activation's end
    rcases h before was with rfl | rfl | ⟨_, _, rfl⟩ | ⟨_, _, rfl⟩
    · rcases goes with busy | lined | ⟨i, same, tells⟩
      · simp [Errand.Stage.isBusy] at busy
      · simp [Errand.Stage.isLined] at lined
      · obtain rfl := Errand.Stage.awaiting.inj same
        exact .inr (.inr (tells.filing filing))
    all_goals
      rcases goes with busy | lined | ⟨i, same, _⟩
      · simp [Errand.Stage.isBusy] at busy
      · simp [Errand.Stage.isLined] at lined
      · simp at same

theorem IsServed.run (h : b.IsServed a e) (old : e < b.nextErrand) (orderly : b.Orderly)
    (moves : List Move) : (b.run moves).IsServed a e := by
  have step (b : Broker) (next : Move)
      (h : b.Orderly ∧ b.IsServed a e ∧ e < b.nextErrand) :
      (b.move next).Orderly ∧ (b.move next).IsServed a e ∧ e < (b.move next).nextErrand := by
    refine ⟨h.1.move next, (h.1.kept.moves next).keeps
      (P := fun b => b.IsServed a e ∧ e < b.nextErrand) h.2 ?_ ?_⟩
    · intro c d h alike
      exact ⟨h.1.posting h.2 alike.posting alike.filing,
        Nat.lt_of_lt_of_le h.2 alike.posting.later⟩
    · intro sight c d h change
      exact ⟨h.1.posting h.2 change.posting change.filing,
        Nat.lt_of_lt_of_le h.2 change.posting.later⟩
  exact (run_induction step ⟨orderly, h, old⟩ moves).2.1

/-! Lookups. -/

/-- The errand is led to the activation of its scope. -/
def Enters (b : Broker) (e : ErrandId) (scope : Scope) (d : Broker) : Prop :=
  ∃ stage, Alike ((b.entry scope).1.putErrand e stage) d ∧
    (stage = .awaiting (b.entry scope).2 ∨ stage = .done (.prepared (b.entry scope).2))

private theorem Enters.alike (enters : b.Enters e scope c) (alike : Alike c d) :
    b.Enters e scope d := by
  obtain ⟨stage, same, after⟩ := enters
  exact ⟨stage, same.trans alike, after⟩

private theorem sought?_cases {host : Host} (sought : b.sought? host e = some scope) :
    ∃ x, b.errand? e = some x ∧ x.stage = .fresh ∧ ∃ resource interpreter,
      locate host resource interpreter = .ok scope ∧
        (x.task = .find resource interpreter ∨ x.task = .prepare resource interpreter) := by
  unfold sought? at sought
  split at sought
  · next resource interpreter _ _ found =>
    cases located : locate host resource interpreter with
    | error cause => simp [located, Except.toOption] at sought
    | ok other =>
      obtain rfl : other = scope := by simpa [located, Except.toOption] using sought
      exact ⟨_, found, rfl, resource, interpreter, located, .inl rfl⟩
  · next resource interpreter _ _ found =>
    cases located : locate host resource interpreter with
    | error cause => simp [located, Except.toOption] at sought
    | ok other =>
      obtain rfl : other = scope := by simpa [located, Except.toOption] using sought
      exact ⟨_, found, rfl, resource, interpreter, located, .inr rfl⟩
  · simp at sought

private theorem enters_stepErrand {s : Site} (calm : b.site.Calm s)
    (sought : b.sought? s.host e = some scope) :
    b.Enters e scope (({ b with site := s } : Broker).stepErrand e) := by
  obtain ⟨x, found, fresh, resource, interpreter, located, task⟩ := sought?_cases sought
  have here : ({ b with site := s } : Broker).errand? e = some x := found
  obtain ⟨d, same, alike⟩ : ∃ d, ({ b with site := s } : Broker).entry scope =
      (d, (b.entry scope).2) ∧ ∀ stage, Alike ((b.entry scope).1.putErrand e stage)
        (d.putErrand e stage) := by
    unfold entry
    dsimp only
    split
    · exact ⟨_, rfl, fun stage => .of_managers rfl rfl rfl rfl
        (map_putErrand (c := b) (d := { b with site := s }) rfl e stage) rfl rfl calm⟩
    · exact ⟨_, rfl, fun stage => .of_managers rfl rfl rfl rfl
        (map_putErrand (c := b) (d := { b with site := s }) rfl e stage) rfl rfl calm⟩
  rcases task with task | task
  · refine ⟨.awaiting (b.entry scope).2, ?_, .inl rfl⟩
    simp only [stepErrand, here, fresh, task, beginErrand, located, same]
    exact alike _
  · refine ⟨.done (.prepared (b.entry scope).2), ?_, .inr rfl⟩
    simp only [stepErrand, here, fresh, task, beginErrand, located, same]
    exact alike _

private theorem canRun_of_sought? {host : Host} (sought : b.sought? host e = some scope) :
    b.canRun e ∧ b.isLooking e ∧ b.errandOutcome? e = none := by
  obtain ⟨⟨id, task, stage, since, cancelled⟩, found, fresh, resource, interpreter, _, about⟩ :=
    sought?_cases sought
  obtain rfl : stage = .fresh := fresh
  refine ⟨by simp [canRun, found], ?_, by simp [errandOutcome?, found]⟩
  rcases about with about | about
  · obtain rfl : task = .find resource interpreter := about
    simp [isLooking, found]
  · obtain rfl : task = .prepare resource interpreter := about
    simp [isLooking, found]

/-- A lookup leads to the entry of its scope. -/
theorem enters_move {next : Move} (found : b.lookup? next = some (e, scope)) :
    b.Enters e scope (b.move next) := by
  cases next with
  | errand i =>
    simp only [lookup?] at found
    split at found
    · simp at found
    · next free =>
      obtain ⟨other, sought, same⟩ := Option.map_eq_some_iff.mp found
      obtain ⟨rfl, rfl⟩ := Prod.mk.inj same
      have free : b.isWatched i = false := by simpa using free
      simp only [move, (canRun_of_sought? sought).1, free, Bool.not_false, Bool.and_self, if_true]
      exact (enters_stepErrand (calm_ticked b) sought).alike (.tidy _)
  | enter i host =>
    obtain ⟨other, sought, same⟩ := Option.map_eq_some_iff.mp found
    obtain ⟨rfl, rfl⟩ := Prod.mk.inj same
    have back (c : Broker) : Alike c (c.inHost b.site.host) :=
      .of_managers rfl rfl rfl rfl rfl rfl rfl (.of_journal rfl rfl (.inl rfl))
    simp only [move, (canRun_of_sought? sought).2.1, if_true]
    have calm : b.site.Calm { b.site with host } := .of_journal rfl rfl (.inl rfl)
    exact (enters_stepErrand calm sought).alike ((back _).trans (.tidy _))
  | agent agent =>
    cases agent with
    | watch =>
      obtain ⟨i, swept, found⟩ := Option.bind_eq_some_iff.mp found
      obtain ⟨other, sought, same⟩ := Option.map_eq_some_iff.mp found
      obtain ⟨rfl, rfl⟩ := Prod.mk.inj same
      obtain ⟨⟨news, sweep⟩, watch, rfl⟩ := Option.bind_eq_some_iff.mp swept
      have facts := canRun_of_sought? sought
      have ready : b.isReady .watch := by simp [isReady, watch, canAwaitErrand, facts.1]
      have also : b.ticked.watch = some { news, sweep := some i } := watch
      have runs : b.ticked.errandOutcome? i = none := facts.2.2
      simp only [move, ready, if_true, act, stepWatch, also, awaitErrand, runs]
      exact (enters_stepErrand (calm_ticked b) sought).alike (.tidy _)
    | activation a => simp [lookup?] at found
    | manager m duty => simp [lookup?] at found
  | _ => simp [lookup?] at found

theorem Enters.lookup (enters : b.Enters e scope d) :
    d.cache.lookup scope.key = some (b.entry scope).2 := by
  obtain ⟨stage, alike, _⟩ := enters
  rw [alike.cache]
  change (b.entry scope).1.cache.lookup scope.key = _
  unfold entry
  split
  · next found => exact found
  · next absent => simp [List.lookup_append, absent]

theorem Enters.served (enters : b.Enters e scope d) : d.IsServed (b.entry scope).2 e := by
  obtain ⟨stage, alike, after⟩ := enters
  intro other found
  rw [alike.errandStage?] at found
  obtain rfl := errandStage?_putErrand_self found
  rcases after with rfl | rfl
  · exact .inl rfl
  · exact .inr (.inl rfl)

theorem Orderly.old (h : b.Orderly) {next : Move} (found : b.lookup? next = some (e, scope)) :
    e < b.nextErrand := by
  have number {host : Host} {i : ErrandId} {s : Scope} (sought : b.sought? host i = some s) :
      i < b.nextErrand := by
    obtain ⟨x, found, _⟩ := sought?_cases sought
    have id : x.id = i := by simpa using List.find?_some found
    have known := h.numbered (x.id, x.task, x.stage)
      (List.mem_map_of_mem (List.mem_of_find?_eq_some found))
    exact id ▸ known
  cases next with
  | errand i =>
    simp only [lookup?] at found
    split at found
    · simp at found
    · obtain ⟨_, sought, same⟩ := Option.map_eq_some_iff.mp found
      exact (Prod.mk.inj same).1 ▸ number sought
  | enter i host =>
    obtain ⟨_, sought, same⟩ := Option.map_eq_some_iff.mp found
    exact (Prod.mk.inj same).1 ▸ number sought
  | agent agent =>
    cases agent with
    | watch =>
      obtain ⟨i, _, found⟩ := Option.bind_eq_some_iff.mp found
      obtain ⟨_, sought, same⟩ := Option.map_eq_some_iff.mp found
      exact (Prod.mk.inj same).1 ▸ number sought
    | activation a => simp [lookup?] at found
    | manager m duty => simp [lookup?] at found
  | _ => simp [lookup?] at found

/-- Whoever looks for a scope is served by its entry from then on. -/
theorem Orderly.served (h : b.Orderly) {next : Move} (found : b.lookup? next = some (e, scope)) :
    ∃ a, (b.move next).cache.lookup scope.key = some a ∧
      ∀ moves, ((b.move next).run moves).IsServed a e := by
  have enters := enters_move found
  have later : e < (b.move next).nextErrand :=
    (h.kept.moves next).keeps (P := fun c => e < c.nextErrand) (h.old found)
      (fun old alike => Nat.lt_of_lt_of_le old alike.posting.later)
      fun old change => Nat.lt_of_lt_of_le old change.posting.later
  exact ⟨_, enters.lookup, enters.served.run later (h.move next)⟩

/-! A key's time in the cache. -/

theorem isCached_iff : b.isCached key ↔ ∃ a, b.cache.lookup key = some a :=
  Option.isSome_iff_exists

/-- As long as the key is cached it leads to the activation that was begun when it came in, and
none is begun for it besides. -/
theorem Orderly.entry_stays (h : b.Orderly) {first : Move} {segment : List Move}
    (absent : b.isCached key = false)
    (present : ∀ during, during <+: segment → ((b.move first).run during).isCached key) :
    ∃ a, ∀ during, during <+: segment →
      ((b.move first).run during).cache.lookup key = some a ∧
        ((b.move first).run during).begun key = b.begun key ++ [a] := by
  have none : b.cache.lookup key = Option.none := by simpa [isCached] using absent
  refine ⟨b.files.length, fun during => ?_⟩
  -- from the end, since what the last move does to the key decides
  induction during using List.reverseRecOn with
  | nil =>
    intro _
    obtain ⟨a, cached⟩ := isCached_iff.mp (present [] (List.nil_prefix))
    rcases (h.kept.moves first).filing.lookup key with ⟨same | out, _⟩ | ⟨_, here, begun⟩
    · simp [run_nil, same, none] at cached
    · simp [run_nil, out] at cached
    · exact ⟨here, begun⟩
  | append_singleton during next ih =>
    intro inside
    have before := ih ((List.prefix_append during [next]).trans inside)
    obtain ⟨a, cached⟩ := isCached_iff.mp (present _ inside)
    have kept := ((h.move first).run during).kept
    rw [run_append, run_cons, run_nil] at cached ⊢
    rcases (kept.moves next).filing.lookup key with ⟨same | out, begun⟩ | ⟨out, _, _⟩
    · exact ⟨same.trans before.1, begun.trans before.2⟩
    · simp [out] at cached
    · simp [before.1] at out

/-- An activation begins once. -/
theorem Orderly.begins_once (h : b.Orderly) {stage : Activation.Stage}
    (begun : b.stage? a = some stage) (moved : stage ≠ .fresh) (moves : List Move) :
    (b.run moves).stage? a ≠ some .fresh := by
  have step (b : Broker) (next : Move)
      (h : b.Orderly ∧ ∃ stage, b.stage? a = some stage ∧ stage ≠ .fresh) :
      (b.move next).Orderly ∧ ∃ stage, (b.move next).stage? a = some stage ∧ stage ≠ .fresh := by
    obtain ⟨orderly, stage, begun, moved⟩ := h
    have filing := (orderly.kept.moves next).filing
    obtain ⟨x, hx, _⟩ := Option.map_eq_some_iff.mp begun
    obtain ⟨y, hy, _⟩ := filing.scope hx
    refine ⟨orderly.move next, y.2, by simp [stage?, hy], fun fresh => ?_⟩
    exact filing.moved begun moved (by simp [stage?, hy, fresh])
  obtain ⟨_, later, at_later, moved⟩ := run_induction step ⟨h, stage, begun, moved⟩ moves
  simpa [at_later] using moved

/-- An error stays, and nobody works for its activation any more. -/
theorem Orderly.failure_stays (h : b.Orderly) {cause : ActivationError}
    (failed : b.result? a = some (.error cause)) (moves : List Move) :
    (b.run moves).result? a = some (.error cause) ∧
      ∀ next, ((b.run moves).move next).site.toils ≠ (b.run moves).site.toils →
        ¬ (b.run moves).WorksFor next a ∧ ∃ i, (b.run moves).WorksFor next i := by
  have stays := run_induction (P := fun b => b.Orderly ∧ b.result? a = some (.error cause))
    (fun b next ⟨h, failed⟩ => ⟨h.move next, result?_eq_some.mpr
      ((h.kept.moves next).filing.settled (result?_eq_some.mp failed))⟩) ⟨h, failed⟩ moves
  refine ⟨stays.2, fun next toil => ⟨not_worksFor (result?_eq_some.mp stays.2) toil, ?_⟩⟩
  rcases toils_move stays.1.kept next with same | ⟨i, _, _, _, works⟩
  · exact absurd same toil
  · exact ⟨i, works⟩

/-- From the move that brings a key into the cache to the one that takes it out, whatever else
happens, the key leads to one activation, and this is the only one there is for it besides older
ones, and begins once. Every lookup of the key in that time is led to it and gets what it comes
to. If that is an error, it stays so, and no program is asked for and no server made or started
for the activation again. -/
theorem lookups_share_activation (host : Host) (plan : BackendName → Plan) (clock : Clock)
    (past : List Move) (first : Move) (segment : List Move) (key : ScopeKey)
    (absent : ((opening host plan clock).run past).isCached key = false)
    (present : ∀ during, during <+: segment →
      ((opening host plan clock).run (past ++ first :: during)).isCached key) :
    ∃ a,
      (∀ during, during <+: segment →
        ((opening host plan clock).run (past ++ first :: during)).cache.lookup key = some a ∧
        ((opening host plan clock).run (past ++ first :: during)).begun key =
          ((opening host plan clock).run past).begun key ++ [a]) ∧
      (∀ during stage, ((opening host plan clock).run during).stage? a = some stage →
        stage ≠ .fresh →
        ∀ after, ((opening host plan clock).run (during ++ after)).stage? a ≠ some .fresh) ∧
      (∀ before next e scope, before ++ [next] <+: first :: segment →
        ((opening host plan clock).run (past ++ before)).lookup? next = some (e, scope) →
        scope.key = key →
        ∀ after, ((opening host plan clock).run (past ++ before ++ next :: after)).IsServed a e) ∧
      (∀ during cause, ((opening host plan clock).run during).result? a = some (.error cause) →
        ∀ after, ((opening host plan clock).run (during ++ after)).result? a =
            some (.error cause) ∧
          ∀ next, ((opening host plan clock).run (during ++ after ++ [next])).site.toils ≠
              ((opening host plan clock).run (during ++ after)).site.toils →
            ¬ ((opening host plan clock).run (during ++ after)).WorksFor next a ∧
              ∃ i, ((opening host plan clock).run (during ++ after)).WorksFor next i) := by
  have orderly (moves : List Move) := (orderly_opening host plan clock).run moves
  simp only [run_append, run_cons, run_nil] at present ⊢
  obtain ⟨a, entry⟩ := (orderly past).entry_stays absent present
  refine ⟨a, entry, fun during stage begun moved => (orderly during).begins_once begun moved, ?_,
    fun during cause failed => (orderly during).failure_stays failed⟩
  intro before next e scope inside found same after
  subst same
  have here : (((opening host plan clock).run past).run before).Orderly := (orderly past).run before
  obtain ⟨i, cached, served⟩ := here.served found
  -- the lookup lies in the key's time in the cache
  have leads : ((((opening host plan clock).run past).run before).move next).cache.lookup
      scope.key = some a := by
    cases before with
    | nil =>
      obtain ⟨rfl, _⟩ := List.cons_prefix_cons.mp inside
      exact (entry [] List.nil_prefix).1
    | cons other during =>
      obtain ⟨rfl, rest⟩ := List.cons_prefix_cons.mp inside
      have stays := (entry (during ++ [next]) rest).1
      rwa [run_append, run_cons, run_nil] at stays
  obtain rfl := Option.some.inj (cached.symm.trans leads)
  exact served after

/-- Surroundings in which no servers can be made. -/
def bareHost : Host where
  folders := []
  settings _ := {}
  environment _ := .ok []
  interpreter _ := .ok none
  isSupported _ := true
  prefersSimple := true
  install _ _ := .ok ()
  serverFolder _ := none
  isRegistered _ := false
  quietTime := Host.usualQuietTime

def python : Interpreter := ⟨"/usr/bin/python", none⟩

def notes : Uri := ⟨"untitled", none, .bare "notes", none, none⟩

/-- A resource without a folder is looked for. -/
def firstLookup : List Move := [.entrust (.find none (some python))]

/-- Its activation fails, and another resource of the same key is looked for. -/
def secondLookup : List Move :=
  [.agent (.activation 0), .agent (.activation 0), .agent (.activation 0),
    .entrust (.find (some notes) (some python)), .errand 1, .errand 0, .errand 1]

theorem lookups_share_failed_activation :
    let b := (opening bareHost (fun _ => {}) {}).run (firstLookup ++ .errand 0 :: secondLookup)
    ((opening bareHost (fun _ => {}) {}).run firstLookup).isCached (.of none python) = false ∧
    (∀ during, during <+: secondLookup → ((opening bareHost (fun _ => {}) {}).run
      (firstLookup ++ .errand 0 :: during)).isCached (.of none python)) ∧
    ∃ a, b.begun (.of none python) = [a] ∧ b.IsServed a 0 ∧ b.IsServed a 1 ∧
      b.result? a = some (.error (.noBackend .simple)) ∧
      ∀ after, (b.run after).result? a = some (.error (.noBackend .simple)) := by
  have absent : ((opening bareHost (fun _ => {}) {}).run firstLookup).isCached
      (.of none python) = false := by decide
  have present : ∀ during, during <+: secondLookup → ((opening bareHost (fun _ => {}) {}).run
      (firstLookup ++ .errand 0 :: during)).isCached (.of none python) := by
    have each : ∀ during ∈ secondLookup.inits, ((opening bareHost (fun _ => {}) {}).run
        (firstLookup ++ .errand 0 :: during)).isCached (.of none python) := by decide
    exact fun during inside => each during ((List.mem_inits _ _).mpr inside)
  obtain ⟨a, entry, _, served, failure⟩ := lookups_share_activation bareHost (fun _ => {}) {}
    firstLookup (.errand 0) secondLookup (.of none python) absent present
  obtain ⟨cached, begun⟩ := entry secondLookup (List.prefix_refl _)
  have first : ((opening bareHost (fun _ => {}) {}).run
      (firstLookup ++ .errand 0 :: secondLookup)).cache.lookup (.of none python) = some 0 := by
    decide
  obtain rfl : 0 = a := Option.some.inj (first.symm.trans cached)
  have failed : ((opening bareHost (fun _ => {}) {}).run
      (firstLookup ++ .errand 0 :: secondLookup)).result? 0 =
        some (.error (.noBackend .simple)) := rfl
  refine ⟨absent, present, 0, begun, ?_, ?_, failed, fun after => ?_⟩
  · exact served [] (.errand 0) 0 ⟨none, none, python⟩ ⟨secondLookup, rfl⟩ (by decide) rfl
      secondLookup
  · exact served (.errand 0 :: secondLookup.take 4) (.errand 1) 1 ⟨some notes, none, python⟩
      ⟨secondLookup.drop 5, rfl⟩ (by decide) rfl (secondLookup.drop 5)
  · rw [← run_append]
    exact (failure _ _ failed after).1

end LanguageBroker.Broker
