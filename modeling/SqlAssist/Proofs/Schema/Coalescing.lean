import SqlAssist.Proofs.Schema.TurnEffects
import SqlAssist.Proofs.Schema.LoneLoad

/-!
# Loads of one name are coalesced, and a clear supersedes them

A plan's callers share the loads of a name: a caller that finds a load of its name in
flight joins it, and only a caller that finds none starts a loader.  A clear of a name
drops its snapshot, detaches its load in flight and advances its generation; a loader
publishes only under the generation it started under.  The cache forgets a finished load
only when the event its loader's end queued is handled, so a load that has ended stays the
name's load in flight until then, and a caller that comes in between joins the ended load
and takes its outcome.

`Run.Current r n l` says that `l` is the current load of `n`: a loader of `n` under the
current generation of `n` that the cache has not forgotten, because it has not ended or
its forgetting is still queued.  `Run.Coherent` is what every state of every run keeps:
the load in flight of a name is exactly its current load, and no loader's generation is
ahead of its name's.  Every update a turn makes keeps it, so every turn does, and so does
every run of a plan from a cache with no load in flight.

## Main statements

* `Run.Coherent.handle`: every turn keeps the record of loads coherent.
* `Run.Coherent.drain`: so does every run.
* `Run.Coherent.start`: a run starts coherent from a cache with no load in flight.
-/

namespace SqlAssist.Schema

/-! ## The cache of one name -/

namespace Cache

variable (c : Cache) (n n' : String)

/-- What the cache holds for one name: its snapshot, its load in flight, its generation. -/
def entry : Option Snapshot × Option Nat × Nat :=
  (c.snapshot? n, c.inflight.lookup n, c.generation n)

theorem generation_clear :
    (c.clear n).generation n' = if n' = n then c.generation n + 1 else c.generation n' := by
  unfold clear generation
  rw [lookup_setEntry]
  split <;> rfl

theorem inflight_clear :
    (c.clear n).inflight.lookup n' = if n' = n then none else c.inflight.lookup n' := by
  simp [clear]

theorem snapshot?_clear :
    (c.clear n).snapshot? n' = if n' = n then none else c.snapshot? n' := by
  simp [clear, snapshot?]

/-- Clearing a name leaves the other names alone. -/
theorem entry_clear_of_ne (h : n' ≠ n) : (c.clear n).entry n' = c.entry n' := by
  simp [entry, generation_clear, inflight_clear, snapshot?_clear, h]

theorem snapshot?_publish (s : Snapshot) :
    (c.publish n s).snapshot? n' = if n' = n then some s else c.snapshot? n' := by
  simp [publish, snapshot?]

/-- Publishing a snapshot of a name leaves the other names alone. -/
theorem entry_publish_of_ne (s : Snapshot) (h : n' ≠ n) : (c.publish n s).entry n' = c.entry n' := by
  simp only [entry, snapshot?_publish, h, if_false]
  rfl

@[simp] theorem generation_setInflight (xs : List (String × Nat)) :
    ({ c with inflight := xs } : Cache).generation n = c.generation n := rfl

theorem clearAll_cons (m : String) (ns : List String) : c.clearAll (m :: ns) = (c.clear m).clearAll ns :=
  rfl

/-- Clearing a name advances no generation back. -/
theorem generation_le_clear : c.generation n' ≤ (c.clear n).generation n' := by
  rw [generation_clear]
  split
  · next h => rw [h]; omega
  · exact Nat.le_refl _

/-- Clearing names leaves the other names alone. -/
theorem entry_clearAll_of_not_mem {ns : List String} (h : n ∉ ns) : (c.clearAll ns).entry n = c.entry n := by
  induction ns generalizing c with
  | nil => rfl
  | cons m ns ih =>
    rw [List.mem_cons, not_or] at h
    exact (ih _ h.2).trans (entry_clear_of_ne c m n h.1)

/-- Clearing names advances no generation back. -/
theorem generation_le_clearAll (ns : List String) : c.generation n ≤ (c.clearAll ns).generation n := by
  induction ns generalizing c with
  | nil => exact Nat.le_refl _
  | cons m ns ih => exact Nat.le_trans (generation_le_clear c m n) (ih (c.clear m))

/-- A name that is cleared has no snapshot and no load in flight afterwards, and a later
generation. -/
theorem clearAll_of_mem {ns : List String} (h : n ∈ ns) :
    (c.clearAll ns).snapshot? n = none ∧ (c.clearAll ns).inflight.lookup n = none ∧
      c.generation n < (c.clearAll ns).generation n := by
  induction ns generalizing c with
  | nil => cases h
  | cons m ns ih =>
    by_cases hm : n ∈ ns
    · obtain ⟨hs, hi, hg⟩ := ih (c.clear m) hm
      exact ⟨hs, hi, Nat.lt_of_le_of_lt (generation_le_clear c m n) hg⟩
    · have hnm : n = m := by
        rcases List.mem_cons.1 h with h | h
        · exact h
        · exact (hm h).elim
      subst hnm
      have he := entry_clearAll_of_not_mem (c.clear n) n hm
      simp only [entry, Prod.mk.injEq] at he
      rw [clearAll_cons]
      refine ⟨he.1.trans ?_, he.2.1.trans ?_, ?_⟩
      · simp [snapshot?_clear]
      · simp [inflight_clear]
      · rw [he.2.2, generation_clear, if_pos rfl]
        omega

end Cache

/-! ## The forget events of an end -/

/-- The forget events a task's end queues are those of its forget callbacks. -/
theorem filter_isForget_map_event (cbs : List Callback) (l : Nat) :
    (cbs.map (Callback.event l)).filter Event.isForget = (forgetNames cbs).map (Event.forget · l) := by
  induction cbs with
  | nil => rfl
  | cons c cbs ih =>
    unfold forgetNames at ih ⊢
    cases c <;> simp [List.filterMap_cons, List.filter_cons, Callback.event, Event.isForget,
      Callback.forgetName?, ih]

theorem mem_map_event_forget {cbs : List Callback} {l l' : Nat} {n : String} :
    Event.forget n l' ∈ cbs.map (Callback.event l) ↔ l' = l ∧ n ∈ forgetNames cbs := by
  have h : Event.forget n l' ∈ cbs.map (Callback.event l) ↔
      Event.forget n l' ∈ (cbs.map (Callback.event l)).filter Event.isForget := by
    simp [Event.isForget]
  rw [h, filter_isForget_map_event]
  simp only [List.mem_map, Event.forget.injEq]
  constructor
  · rintro ⟨m, hm, rfl, rfl⟩
    exact ⟨rfl, hm⟩
  · rintro ⟨rfl, hm⟩
    exact ⟨n, hm, rfl, rfl⟩

namespace Run

variable {r r' : Run} {n : String} {l : Nat}

/-! ## The current load of a name -/

/-- `l` is the current load of `n`: a loader of `n` under the current generation of `n` that
the cache has not forgotten, because it has not ended or its forgetting is still queued. -/
def Current (r : Run) (n : String) (l : Nat) : Prop :=
  (∃ src, (r.task l).role = .loader n src (r.world.cache.generation n)) ∧
    ((r.task l).ending = none ∨ Event.forget n l ∈ r.queue)

/-- The current load of a name is one of the run's tasks. -/
theorem Current.lt (h : r.Current n l) : l < r.tasks.size := by
  obtain ⟨⟨src, hl⟩, -⟩ := h
  exact lt_of_ne_client r (by rw [hl]; nofun)

/-- Calm changes keep the current loads. -/
theorem Calm.current (h : Calm r r') : r'.Current n l ↔ r.Current n l := by
  unfold Current
  rw [h.cache, h.mem_forget n l]
  constructor
  · rintro ⟨⟨src, hl⟩, he⟩
    have hl' := (h.loader l n src _).1 hl
    exact ⟨⟨src, hl'⟩, by rwa [← h.ending l n src _ hl']⟩
  · rintro ⟨⟨src, hl⟩, he⟩
    exact ⟨⟨src, (h.loader l n src _).2 hl⟩, by rwa [h.ending l n src _ hl]⟩

/-! ## The invariant -/

/-- The cache's record of loads agrees with the run. -/
structure Coherent (r : Run) : Prop where
  /-- No loader started under a generation later than its name's. -/
  gen_le : ∀ l n src g, (r.task l).role = .loader n src g → g ≤ r.world.cache.generation n
  forgets : r.ForgetsRight
  /-- A queued forgetting is of a loader of its name that has ended. -/
  queued : ∀ n l, Event.forget n l ∈ r.queue →
    (∃ src g, (r.task l).role = .loader n src g) ∧ (r.task l).ending.isSome
  /-- No forgetting is queued twice. -/
  nodup : (r.queue.filter Event.isForget).Nodup
  /-- The load in flight of a name is its current load. -/
  inflight : ∀ n l, r.world.cache.inflight.lookup n = some l ↔ r.Current n l

namespace Coherent

theorem calm (h : r.Coherent) (hc : Calm r r') : r'.Coherent where
  gen_le l n src g hl := by
    rw [hc.cache]
    exact h.gen_le l n src g ((hc.loader l n src g).1 hl)
  forgets := hc.forgetsRight h.forgets
  queued n l hq := by
    obtain ⟨⟨src, g, hl⟩, he⟩ := h.queued n l ((hc.mem_forget n l).1 hq)
    exact ⟨⟨src, g, (hc.loader l n src g).2 hl⟩, by rw [hc.ending l n src g hl]; exact he⟩
  nodup := by
    rw [hc.filter_isForget]
    exact h.nodup
  inflight n l := by
    rw [hc.cache, hc.current]
    exact h.inflight n l

/-- A clear keeps the record coherent: the loads of the name it clears are of an older
generation from then on, and none is in flight. -/
theorem clear (h : r.Coherent) (m : String) : (r.setCache (·.clear m)).Coherent where
  gen_le l n src g hl := (h.gen_le l n src g hl).trans (Cache.generation_le_clear _ m n)
  forgets := h.forgets
  queued := h.queued
  nodup := h.nodup
  inflight n l := by
    by_cases hn : n = m
    · subst hn
      simp only [Current, setCache_cache, task_setCache, setCache_queue, Cache.inflight_clear,
        Cache.generation_clear, if_true, reduceCtorEq, false_iff, not_and]
      rintro ⟨src, hl⟩ -
      have := h.gen_le l n src _ hl
      omega
    · simpa [Current, Cache.inflight_clear, Cache.generation_clear, hn] using h.inflight n l

theorem clearAll (h : r.Coherent) (ns : List String) : (r.setCache (·.clearAll ns)).Coherent := by
  induction ns generalizing r with
  | nil => exact h
  | cons m ns ih => exact ih (h.clear m)

/-- A publication keeps the record coherent: it touches snapshots only. -/
theorem publish (h : r.Coherent) (n : String) (s : Snapshot) :
    (r.setCache (·.publish n s)).Coherent :=
  ⟨h.gen_le, h.forgets, h.queued, h.nodup, h.inflight⟩

end Coherent

/-- After a loader starts, the current load of its name is the new loader; the current
loads of other names are as they were. -/
theorem current_startLoad {m src : String} :
    (r.startLoad m src).Current n l ↔
      (l = r.tasks.size ∧ n = m) ∨ (l ≠ r.tasks.size ∧ r.Current n l) := by
  have hq : Event.forget n l ∈ (r.startLoad m src).queue ↔ Event.forget n l ∈ r.queue := by
    simp
  by_cases hl : l = r.tasks.size
  · subst hl
    have hnot : ¬ r.Current n r.tasks.size := fun hc => Nat.lt_irrefl _ hc.lt
    simp only [hnot, and_false, or_false, true_and]
    unfold Current
    rw [task_startLoad, if_pos rfl]
    constructor
    · rintro ⟨⟨src', hρ⟩, -⟩
      cases hρ
      rfl
    · rintro rfl
      exact ⟨⟨src, rfl⟩, .inl rfl⟩
  · simp only [hl, false_and, false_or, ne_eq, not_false_eq_true, true_and]
    unfold Current
    rw [task_startLoad, if_neg hl, hq, startLoad_cache, Cache.generation_setInflight]

theorem Coherent.startLoad (h : r.Coherent) {m src : String}
    (hnone : r.world.cache.inflight.lookup m = none) : (r.startLoad m src).Coherent where
  gen_le l n src' g hl := by
    rw [task_startLoad] at hl
    split at hl
    · cases hl
      exact Nat.le_refl _
    · exact h.gen_le l n src' g hl
  forgets := forgetsRight_startLoad r m src h.forgets
  queued n l hq := by
    rw [startLoad_queue, List.mem_append, List.mem_singleton] at hq
    rcases hq with hq | hq
    · obtain ⟨⟨src', g, hρ⟩, -⟩ := h.queued n l hq
      have hlt : l < r.tasks.size := lt_of_ne_client r (by rw [hρ]; nofun)
      rw [task_startLoad, if_neg (Nat.ne_of_lt hlt)]
      exact h.queued n l hq
    · cases hq
  nodup := by
    rw [startLoad_queue, List.filter_append]
    simpa [Event.isForget] using h.nodup
  inflight n l := by
    rw [current_startLoad, startLoad_cache, lookup_setEntry]
    by_cases hn : n = m
    · subst hn
      rw [if_pos rfl, Option.some.injEq]
      constructor
      · rintro rfl
        exact .inl ⟨rfl, rfl⟩
      · rintro (⟨rfl, -⟩ | ⟨-, hc⟩)
        · rfl
        · rw [← h.inflight, hnone] at hc
          cases hc
    · rw [if_neg hn, h.inflight n l]
      constructor
      · intro hc
        exact .inr ⟨Nat.ne_of_lt hc.lt, hc⟩
      · rintro (⟨-, rfl⟩ | ⟨-, hc⟩)
        · exact (hn rfl).elim
        · exact hc

/-- The end of a loader that had not ended keeps the record coherent: it queues the
forgetting of its load, which stays current until that is handled. -/
theorem Coherent.finishLoad (h : r.Coherent) {m src : String} {g : Nat}
    (hl : (r.task l).role = .loader m src g) (hend : (r.task l).ending = none) (e : Ending) :
    (r.finish l e).Coherent := by
  have hlt : l < r.tasks.size := lt_of_ne_client r (by rw [hl]; nofun)
  have hcb : forgetNames (r.task l).callbacks = [m] := by rw [h.forgets l, hl]; rfl
  have hrole : ∀ k, ((r.finish l e).task k).role = (r.task k).role := fun k => by
    rw [task_finish]; split <;> rfl
  have hmem : ∀ n' l', Event.forget n' l' ∈ (r.finish l e).queue ↔
      Event.forget n' l' ∈ r.queue ∨ (l' = l ∧ n' = m) := fun n' l' => by
    rw [finish_queue, List.mem_append, mem_map_event_forget, hcb, List.mem_singleton]
  refine ⟨fun l' n' src' g' hl' => ?_, fun k => ?_, fun n' l' hq => ?_, ?_, fun n' l' => ?_⟩
  · rw [hrole] at hl'
    rw [finish_world]
    exact h.gen_le l' n' src' g' hl'
  · rw [hrole, task_finish]
    split <;> exact h.forgets k
  · rw [task_finish]
    rcases (hmem n' l').1 hq with hq | ⟨rfl, rfl⟩
    · obtain ⟨hρ, he⟩ := h.queued n' l' hq
      split
      · exact ⟨hρ, rfl⟩
      · exact ⟨hρ, he⟩
    · rw [if_pos ⟨rfl, hlt⟩]
      exact ⟨⟨src, g, hl⟩, rfl⟩
  · rw [finish_queue, List.filter_append, filter_isForget_map_event, hcb]
    refine List.nodup_append.2 ⟨h.nodup, List.nodup_singleton _, ?_⟩
    intro x hx y hy
    simp only [List.map_cons, List.map_nil, List.mem_singleton] at hy
    subst hy
    rintro rfl
    have := (h.queued m l (List.mem_of_mem_filter hx)).2
    rw [hend] at this
    cases this
  · rw [finish_world, h.inflight n' l']
    unfold Current
    rw [hrole, hmem, finish_world]
    by_cases hl' : l' = l
    · subst hl'
      rw [task_finish_self _ _ hlt, hend]
      constructor
      · rintro ⟨hρ, -⟩
        exact ⟨hρ, .inr (.inr ⟨rfl, by obtain ⟨_, hρ⟩ := hρ; rw [hl] at hρ; cases hρ; rfl⟩)⟩
      · rintro ⟨hρ, -⟩
        exact ⟨hρ, .inl rfl⟩
    · rw [task_finish_ne _ _ (Ne.symm hl')]
      simp [hl']

/-- The end of a loader from a coherent run keeps it coherent. -/
theorem Coherent.loaderEnd (h : r.Coherent) (he : r.LoaderEnd r' l) {m src : String} {g : Nat}
    (hl : (r.task l).role = .loader m src g) (hend : (r.task l).ending = none) : r'.Coherent := by
  obtain ⟨r₂, e, rfl, hr₂⟩ := he
  -- the run just before the end: calm from `r`, or from `r` with a snapshot published
  obtain ⟨r₀, h₀, hc⟩ : ∃ r₀, r₀.Coherent ∧ Calm r₀ r₂ ∧ r₀.tasks = r.tasks := by
    rcases hr₂ with hc | ⟨n, src', s, -, hc⟩
    · exact ⟨r, h, hc, rfl⟩
    · exact ⟨_, h.publish n s, hc, rfl⟩
  have htask : r₀.task l = r.task l := task_eq_of_tasks hc.2 l
  rw [← htask] at hl hend
  exact (h₀.calm hc.1).finishLoad ((hc.1.loader l m src g).2 hl)
    (by rw [hc.1.ending l m src g hl]; exact hend) e

/-- A loader's turn from a coherent run keeps it coherent. -/
theorem Coherent.loaderTurn (h : r.Coherent) (ht : r.LoaderTurn r' l) {m src : String} {g : Nat}
    (hl : (r.task l).role = .loader m src g) (hend : (r.task l).ending = none) : r'.Coherent := by
  rcases ht with hc | ⟨r₁, hc, he⟩
  · exact h.calm hc
  · exact (h.calm hc).loaderEnd he ((hc.loader l m src g).2 hl)
      (by rw [hc.ending l m src g hl]; exact hend)

/-! ## Every turn keeps the record coherent -/

/-- A step of a task from a coherent run keeps it coherent. -/
theorem Coherent.stepTask (h : r.Coherent) (i : Nat) (thrown : Bool) :
    (r.stepTask i thrown).Coherent := by
  rw [stepTask_eq]
  split
  · exact h
  · next hend =>
    -- the step first clears the task's cancel mark and what it waits on, calmly
    have hc₁ : Calm r (r.setTask i fun t => { t with mustCancel := false, waitsOn := none }) :=
      calm_setTask r _ (fun _ => rfl) (fun _ => rfl) fun _ => rfl
    have h₁ := h.calm hc₁
    have hF₁ := h₁.forgets
    have htask : ∀ j, ((r.setTask i fun t => { t with mustCancel := false, waitsOn := none }).task j).role =
        (r.task j).role ∧
        ((r.setTask i fun t => { t with mustCancel := false, waitsOn := none }).task j).ending =
          (r.task j).ending := fun j => by
      rw [task_setTask]
      split <;> exact ⟨rfl, rfl⟩
    generalize (thrown || (r.task i).mustCancel) = th
    generalize hr₁ : (r.setTask i fun t => { t with mustCancel := false, waitsOn := none }) = r₁ at h₁ hF₁ htask
    cases hρ : (r.task i).role with
    | client =>
      exact (h₁.clearAll _).calm (resume_client r₁ hF₁ ((htask i).1.trans hρ) th _)
    | caller n src refresh =>
      rcases resume_caller r₁ hF₁ ((htask i).1.trans hρ) th (r.task i).phase with hc | ⟨-, -, he⟩
      · exact h₁.calm hc
      rw [he]
      have hi : (r₁.task i).role.forgets = [] := by rw [(htask i).1, hρ]; rfl
      have hlt : i < r₁.tasks.size := lt_of_ne_client r₁ (by rw [(htask i).1, hρ]; nofun)
      -- a refresh clears the name first
      have h₂ : (if refresh then r₁.setCache (·.clear n) else r₁).Coherent := by
        split
        · exact h₁.clear n
        · exact h₁
      rcases callerStart_cases r₁ hF₁ hi hlt n src refresh with hc | ⟨hnone, hc⟩
      · exact h₂.calm hc
      · exact (h₂.startLoad hnone).calm hc
    | loader n src g =>
      have hend' : (r₁.task i).ending = none := by
        rw [(htask i).2]
        simpa using hend
      exact h₁.loaderTurn (resume_loader r₁ th _) ((htask i).1.trans hρ) hend'
    | database l d => exact h₁.calm (resume_database r₁ hF₁ ((htask i).1.trans hρ) th _)
    | columns l d t => exact h₁.calm (resume_columns r₁ hF₁ ((htask i).1.trans hρ) th _)

/-- Taking an event that forgets nothing off the front of the queue keeps the record
coherent. -/
theorem Coherent.pop (h : r.Coherent) {e : Event} {rest : List Event} (hq : r.queue = e :: rest)
    (he : e.isForget = false) : ({ r with queue := rest } : Run).Coherent := by
  have hmem : ∀ n l, Event.forget n l ∈ rest ↔ Event.forget n l ∈ r.queue := fun n l => by
    rw [hq, List.mem_cons]
    constructor
    · exact .inr
    · rintro (h' | h')
      · subst h'
        cases he
      · exact h'
  refine ⟨h.gen_le, h.forgets, fun n l hl => h.queued n l ((hmem n l).1 hl), ?_, fun n l => ?_⟩
  · have hnd := h.nodup
    rw [hq, List.filter_cons_of_neg (by simp [he])] at hnd
    exact hnd
  · show r.world.cache.inflight.lookup n = some l ↔ _
    rw [h.inflight n l]
    unfold Current
    simp only [task_pop, hmem]

/-- A change of the cache that keeps every generation keeps the current loads. -/
theorem current_setCache {f : Cache → Cache}
    (hg : ∀ m, (f r.world.cache).generation m = r.world.cache.generation m) :
    (r.setCache f).Current n l ↔ r.Current n l := by
  unfold Current
  simp only [setCache_cache, task_setCache, setCache_queue, hg]

/-- Once a queued forgetting is taken off the queue, the current loads are those of before
but the forgotten one. -/
theorem current_pop_forget (h : r.Coherent) {rest : List Event}
    (hq : r.queue = .forget n l :: rest) (n' : String) (l' : Nat) :
    ({ r with queue := rest } : Run).Current n' l' ↔ r.Current n' l' ∧ ¬ (n' = n ∧ l' = l) := by
  obtain ⟨-, hend⟩ := h.queued n l (by rw [hq]; exact List.mem_cons_self)
  -- the forgetting is queued once, so it leaves the queue with this event
  have hnot : Event.forget n l ∉ rest := by
    have hnd := h.nodup
    rw [hq, List.filter_cons_of_pos rfl, List.nodup_cons] at hnd
    exact fun hr => hnd.1 (List.mem_filter.mpr ⟨hr, rfl⟩)
  unfold Current
  simp only [task_pop]
  by_cases hnl : n' = n ∧ l' = l
  · obtain ⟨rfl, rfl⟩ := hnl
    have hsome : (r.task l').ending ≠ none := Option.isSome_iff_ne_none.mp hend
    simp [hsome, hnot]
  · have hmem : Event.forget n' l' ∈ rest ↔ Event.forget n' l' ∈ r.queue := by
      rw [hq, List.mem_cons, Event.forget.injEq]
      exact ⟨.inr, fun h' => h'.resolve_left hnl⟩
    simp [hmem, hnl]

/-- **Handling a queued forgetting keeps the record coherent**: the loader it names has
ended, so it stops being current, and the cache drops it if it is still the load in flight
of its name. -/
theorem Coherent.forget (h : r.Coherent) {rest : List Event} (hq : r.queue = .forget n l :: rest) :
    (({ r with queue := rest } : Run).handle (.forget n l)).Coherent := by
  have hsub : ∀ x ∈ rest, x ∈ r.queue := fun x hx => by rw [hq]; exact List.mem_cons_of_mem _ hx
  have hnd : (rest.filter Event.isForget).Nodup := by
    have hnd := h.nodup
    rw [hq, List.filter_cons_of_pos rfl, List.nodup_cons] at hnd
    exact hnd.2
  have hcur := current_pop_forget h hq
  simp only [handle]
  split
  · next hin =>
    -- the forgotten loader is the load in flight: the cache drops it
    refine ⟨fun l' n' src g hl => ?_, h.forgets, fun n' l' hl => h.queued n' l' (hsub _ hl), hnd,
      fun n' l' => ?_⟩
    · simpa using h.gen_le l' n' src g hl
    · rw [current_setCache fun _ => rfl, hcur]
      simp only [setCache_cache, lookup_eraseKey]
      by_cases hn : n' = n
      · subst hn
        simp only [if_true, reduceCtorEq, false_iff, not_and]
        intro hc hne
        -- the load in flight of a name is its only current load
        have := (h.inflight n' l').2 hc
        rw [hin, Option.some.injEq] at this
        exact hne trivial this.symm
      · simp only [hn, if_false, false_and, not_false_eq_true, and_true]
        exact h.inflight n' l'
  · next hin =>
    -- the forgotten loader was no longer current: nothing changes in the cache
    refine ⟨h.gen_le, h.forgets, fun n' l' hl => h.queued n' l' (hsub _ hl), hnd, fun n' l' => ?_⟩
    show r.world.cache.inflight.lookup n' = some l' ↔ _
    rw [hcur, h.inflight n' l']
    constructor
    · intro hc
      refine ⟨hc, ?_⟩
      rintro ⟨rfl, rfl⟩
      exact hin ((h.inflight n' l').2 hc)
    · exact And.left

/-- **Every turn keeps the record coherent.** -/
theorem Coherent.handle (h : r.Coherent) {e : Event} {rest : List Event} (hq : r.queue = e :: rest) :
    (({ r with queue := rest } : Run).handle e).Coherent := by
  cases e with
  | forget n l => exact h.forget hq
  | step i thrown => exact (h.pop hq rfl).stepTask i thrown
  | childDone g c => exact (h.pop hq rfl).calm (calm_childDone _ g c)
  | relay l f =>
    have h₀ := h.pop hq rfl
    simp only [Run.handle]
    split
    · exact h₀.calm (calm_settle _ f _)
    · exact h₀.calm (calm_settle _ f _)
    · exact h₀

/-! ## Runs -/

/-- One turn of a run: the event at the front of the queue is handled. -/
def turn (r : Run) : Run :=
  match r.queue with
  | [] => r
  | e :: rest => ({ r with queue := rest } : Run).handle e

theorem drain_of_queue_nil (hq : r.queue = []) : ∀ k, drain k r = r
  | 0 => rfl
  | k + 1 => by simp [drain, hq]

/-- A run of `k + 1` turns is a turn and then `k` more. -/
theorem drain_succ (k : Nat) (r : Run) : drain (k + 1) r = drain k r.turn := by
  cases hq : r.queue with
  | nil =>
    have hturn : r.turn = r := by simp [turn, hq]
    rw [hturn, drain_of_queue_nil hq, drain_of_queue_nil hq]
  | cons e rest => simp [drain, turn, hq]

/-- A run of `k + 1` turns is `k` turns and then one more. -/
theorem drain_succ_turn (k : Nat) (r : Run) : drain (k + 1) r = (drain k r).turn := by
  induction k generalizing r with
  | zero => rw [drain_succ]; rfl
  | succ k ih => rw [drain_succ, ih, ← drain_succ]

theorem Coherent.turn (h : r.Coherent) : r.turn.Coherent := by
  unfold Run.turn
  split
  · exact h
  · next e rest hq => exact h.handle hq

/-- **Every state of a run from a coherent one is coherent.** -/
theorem Coherent.drain (h : r.Coherent) (k : Nat) : (Run.drain k r).Coherent := by
  induction k generalizing r with
  | zero => exact h
  | succ k ih => rw [drain_succ]; exact ih h.turn

/-- A plan starts coherent from a cache with no load in flight: its client is no loader and
nothing is queued to be forgotten. -/
theorem Coherent.start {w : World} (hfree : ∀ n, w.cache.inflight.lookup n = none) (plan : List Plan) :
    (Run.start w plan).Coherent := by
  -- every task of the start is the client
  have hclient : ∀ j, ((Run.start w plan).task j).role = .client ∧ ((Run.start w plan).task j).callbacks = [] :=
    fun j => by
      unfold task Run.start
      cases j with
      | zero => exact ⟨rfl, rfl⟩
      | succ j => exact ⟨rfl, rfl⟩
  refine ⟨fun l n src g hl => ?_, fun j => ?_, fun n l hl => ?_, by simp [Run.start, Event.isForget],
    fun n l => ?_⟩
  · rw [(hclient l).1] at hl
    cases hl
  · rw [(hclient j).1, (hclient j).2]
    rfl
  · simp [Run.start] at hl
  · rw [show (Run.start w plan).world = w from rfl, hfree n]
    simp only [reduceCtorEq, false_iff]
    rintro ⟨⟨src, hl⟩, -⟩
    rw [(hclient l).1] at hl
    cases hl

end Run

end SqlAssist.Schema
