import LanguageBroker.Proofs.BrokerErrands

/-!
The sweep that the watch for changes of interpreters has on its way is none of those that sweep
everything out. So whoever ends the watch gives up another errand than its own, and every move of
a broker is a sequence of changes in which every eviction has an errand that sees to it.
-/

namespace LanguageBroker.Broker

variable {b c d : Broker} {e : ErrandId} {sight : Option Sight}

/-- Errands have numbers of their own, and the watch's is a sweep after a change. -/
structure Watchful (b : Broker) : Prop where
  numbered : b.IsNumbered
  distinct : (b.posts.map Prod.fst).Nodup
  early : ∀ {e}, b.isWatched e → e < b.nextErrand
  sweeps : ∀ {e task stage}, b.isWatched e → (e, task, stage) ∈ b.posts →
    task = .sweep .interpreters

theorem mem_posts {x : Errand} (found : b.errand? e = some x) : (e, x.task, x.stage) ∈ b.posts := by
  obtain rfl : x.id = e := by simpa using List.find?_some found
  exact List.mem_map_of_mem (List.mem_of_find?_eq_some found)

/-- Changes leave it to the watch which errand is its own. -/
theorem Change.watch (change : Change sight b c) : c.watch = b.watch := by
  have disposing (s : Broker) (e : ErrandId) (m : ManagerId) (left : List Record)
      (evicted : List ScopeKey) : (s.beginDisposal e m left evicted).watch = s.watch := by
    unfold beginDisposal
    rcases ask_cases s m .dispose with ⟨_, _, same⟩ | ⟨_, same⟩ <;> rw [same] <;> rfl
  cases change with
  | forget e =>
    rcases forgetErrand_cases b e with ⟨_, same⟩ | ⟨_, _, _, _, _, same⟩ <;> rw [same] <;> rfl
  | @enter e x scope => rcases entry_cases b scope with same | ⟨_, same⟩ <;> rw [same] <;> rfl
  | release => exact disposing ..
  | @discard e x r => exact disposing (b.dropSimple e r) ..
  | _ => rfl

namespace Watchful

theorem isWatched_congr (watch : c.watch = b.watch) : c.isWatched e = b.isWatched e := by
  simp only [isWatched, watch]

theorem posting (h : b.Watchful) (posting : Posting b c) (watch : c.watch = b.watch) :
    c.Watchful := by
  have watched {e : ErrandId} (watched : c.isWatched e) : b.isWatched e := by
    rwa [isWatched_congr watch] at watched
  refine ⟨h.numbered.posting posting, ?distinct, fun own => ?early,
    fun {e task stage} own mem => ?sweeps⟩
  case early => exact Nat.lt_of_lt_of_le (h.early (watched own)) posting.later
  case distinct =>
    cases posting with
    | rest posts => exact posts ▸ h.distinct
    | entrust task posts =>
      rw [posts, List.map_append, List.nodup_append]
      refine ⟨h.distinct, List.nodup_singleton _, ?_⟩
      rintro i old j new rfl
      obtain ⟨x, hx, rfl⟩ := List.mem_map.mp old
      exact absurd (List.mem_singleton.mp new) (Nat.ne_of_lt (h.numbered x hx))
    | forget e posts =>
      rw [posts]
      exact (List.filter_sublist.map Prod.fst).nodup h.distinct
    | put e stage _ posts =>
      have same : c.posts.map Prod.fst = b.posts.map Prod.fst := by
        rw [posts, List.map_map]
        apply List.map_congr_left
        intro x _
        simp only [Function.comp]
        split <;> rfl
      exact same ▸ h.distinct
  case sweeps =>
    have own := watched own
    cases posting with
    | rest posts => exact h.sweeps own (posts ▸ mem)
    | entrust task posts =>
      rw [posts] at mem
      rcases List.mem_append.mp mem with old | new
      · exact h.sweeps own old
      · obtain ⟨rfl, _⟩ := Prod.mk.inj (List.mem_singleton.mp new)
        exact absurd (h.early own) (Nat.lt_irrefl _)
    | forget e posts => exact h.sweeps own (List.mem_filter.mp (posts ▸ mem)).1
    | put i stage _ posts =>
      rw [posts] at mem
      obtain ⟨⟨k, task, old⟩, hx, same⟩ := List.mem_map.mp mem
      split at same
      · obtain ⟨rfl, rfl, _⟩ : k = e ∧ task = _ ∧ _ := by simpa using same
        exact h.sweeps own hx
      · obtain ⟨rfl, rfl, _⟩ : k = e ∧ task = _ ∧ _ := by simpa using same
        exact h.sweeps own hx

theorem change (h : b.Watchful) (change : Change sight b c) : c.Watchful :=
  h.posting change.posting change.watch

theorem alike (h : b.Watchful) (alike : Alike b c) : c.Watchful := by
  have posts : c.posts = b.posts := alike.errands
  have fresh {e : ErrandId} {stage : Errand.Stage}
      (mem : (e, Errand.Task.sweep .interpreters, stage) ∈ c.posts) :
      (e, Errand.Task.sweep .interpreters, stage) ∈ b.posts := posts ▸ mem
  refine ⟨h.numbered.posting alike.posting, posts ▸ h.distinct, fun own => ?_,
    fun {e task stage} own mem => ?_⟩
  · rw [alike.next]
    rcases alike.watched own with old | ⟨stage, new⟩
    · exact h.early old
    · exact h.numbered _ (fresh new)
  · rw [posts] at mem
    rcases alike.watched own with old | ⟨other, new⟩
    · exact h.sweeps old mem
    · have one := List.inj_on_of_nodup_map h.distinct mem (fresh new) rfl
      exact (Prod.mk.inj (Prod.mk.inj one).2).1

end Watchful

theorem watchful_opening (host : Host) (plan : BackendName → Plan) (clock : Clock) :
    Watchful (opening host plan clock) where
  numbered := by simp [IsNumbered, posts, opening]
  distinct := by simp [posts, opening]
  early own := by simp [isWatched, opening] at own
  sweeps _ mem := by simp [posts, opening] at mem

/-- What calm changes keep, and all that does not matter, a calm move keeps. -/
theorem Course.heed {P : Broker → Prop} {host : Host} (course : Course sight host b d)
    (h : b.Watchful) (start : P b)
    (alike : ∀ {c d}, P c → Alike c d → P d)
    (change : ∀ {c d}, P c → Change sight c d → P d) : P d := by
  have at_site {s : Site} (calm : b.site.Calm s) : P { b with site := s } :=
    alike start (.of_managers rfl rfl rfl rfl rfl rfl rfl calm)
  cases course with
  | one site step same => exact alike (change (at_site site) step) same
  | @alone s w e x stale site found fresh task other free same =>
    have forgotten := change (at_site site) (.forget w free)
    -- the errand that sweeps everything out is not the one that is given up
    have differs : e ≠ w := by
      rintro rfl
      have kind := h.sweeps (other rfl) (mem_posts found)
      rw [task] at kind
      simp at kind
    have there : (({ b with site := s } : Broker).forgetErrand w).errandStage? e =
        some x.stage := by
      rw [errandStage?_forgetErrand, if_neg differs]
      exact errandStage?_of_errand found
    refine alike (change forgotten (.evict_of_fresh found fresh fun gone => ?_)) same
    simp [errandStage?, gone] at there

end LanguageBroker.Broker
