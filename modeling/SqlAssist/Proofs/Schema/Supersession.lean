import SqlAssist.Proofs.Schema.Shielding

/-!
# Loads coalesce, clears supersede them, names stay apart

Every turn of a run does one of a few things to the cache and its loaders (`TurnShape`):
nothing they read; clears names; clears names and starts a loader of a name with no load
in flight; ends a loader, publishing the snapshot of its name only under the name's
current generation; or drops a finished load from the record of loads in flight.  The
names it touches are the names of the event it handles (`eventNames`): the clears a client
carries out, the name of a caller or a loader, the name a forgetting is about.

From that and the coherence of the record of loads (`Run.Coherent`), along every
run of a plan that starts with no load in flight:

* the load in flight of a name is its current load, a load that has ended included while
  its forgetting is queued;
* a turn changes the snapshot, load in flight and generation of no name but those of its
  event;
* a snapshot changes only by a clear, which advances the name's generation, or by the end of
  a loader of the name started under the name's current generation, that is, with no clear
  since it started;
* a turn starts a loader only under the current generation of its name, and only for a name
  with no current load or one the same turn cleared;
* no loader ends cancelled, whichever callers the plan cancels (`Run.Shielded`).

A load asked for after the load in flight has ended but before its forgetting is handled
joins the ended load and fetches nothing (`World.second_load_joins_ended_load`).

## Main statements

* `Run.turnShape`: the shape of every turn of a coherent run.
* `World.perform_coalesces`: the five facts above, at every state of a run.
-/

namespace SqlAssist.Schema

namespace Run

variable {r r' r'' : Run} {ns : List String} {n : String}

/-! ## Changes that leave the record of loads alone -/

/-- `r'` agrees with `r`, whatever their queues, on what the cache's record of loads reads
of a turn: the cache, which tasks are loaders, and how the loaders ended. -/
structure Still (r r' : Run) : Prop where
  cache : r'.world.cache = r.world.cache
  loader : ∀ l n src g, (r'.task l).role = .loader n src g ↔ (r.task l).role = .loader n src g
  ending : ∀ l n src g, (r.task l).role = .loader n src g → (r'.task l).ending = (r.task l).ending

namespace Still

theorem refl (r : Run) : Still r r := ⟨rfl, fun _ _ _ _ => .rfl, fun _ _ _ _ _ => rfl⟩

theorem trans (h₁ : Still r r') (h₂ : Still r' r'') : Still r r'' where
  cache := h₂.cache.trans h₁.cache
  loader l n src g := (h₂.loader l n src g).trans (h₁.loader l n src g)
  ending l n src g hl :=
    (h₂.ending l n src g ((h₁.loader l n src g).2 hl)).trans (h₁.ending l n src g hl)

end Still

theorem Calm.still (h : Calm r r') : Still r r' := ⟨h.cache, h.loader, h.ending⟩

theorem still_pop {rest : List Event} : Still r { r with queue := rest } :=
  ⟨rfl, fun _ _ _ _ => .rfl, fun _ _ _ _ _ => rfl⟩

/-! ## The shape of a turn -/

/-- What one turn does to the cache and its loaders, touching only the names `ns`. -/
inductive TurnShape (ns : List String) (r r' : Run) : Prop
  /-- Nothing the record of loads reads. -/
  | still : Still r r' → TurnShape ns r r'
  /-- Clears names. -/
  | clears {r₀ : Run} (ms : List String) : Still r r₀ → (∀ m ∈ ms, m ∈ ns) →
      Still (r₀.setCache (·.clearAll ms)) r' → TurnShape ns r r'
  /-- Clears names, then starts a loader of a name that has no load in flight. -/
  | starts {r₀ : Run} (ms : List String) (m src : String) : Still r r₀ → (∀ k ∈ ms, k ∈ ns) →
      m ∈ ns → (r₀.setCache (·.clearAll ms)).world.cache.inflight.lookup m = none →
      Still ((r₀.setCache (·.clearAll ms)).startLoad m src) r' → TurnShape ns r r'
  /-- Ends a loader that had not ended, publishing nothing. -/
  | ends {r₀ r₂ : Run} (l : Nat) (e : Ending) : Still r r₀ → (r₀.task l).ending = none →
      Still r₀ r₂ → r' = r₂.finish l e → TurnShape ns r r'
  /-- Publishes the snapshot of a loader's name under the name's current generation, and ends
  the loader. -/
  | publishes {r₀ r₂ : Run} (l : Nat) (m src : String) (s : Snapshot) (e : Ending) :
      Still r r₀ → (r₀.task l).role = .loader m src (r₀.world.cache.generation m) →
      (r₀.task l).ending = none → m ∈ ns → Still (r₀.setCache (·.publish m s)) r₂ →
      r' = r₂.finish l e → TurnShape ns r r'
  /-- Drops the load in flight of a name. -/
  | forgets {r₀ : Run} (m : String) : Still r r₀ → m ∈ ns →
      r' = r₀.setCache (fun c => { c with inflight := eraseKey c.inflight m }) →
      TurnShape ns r r'

/-- The names a turn may touch: the clears a client carries out, the name of a caller or a
loader that takes a step, the name a forgetting is about. -/
def eventNames (r : Run) : Event → List String
  | .step i _ =>
    match (r.task i).role, (r.task i).phase with
    | .client, .issuing rest => Plan.leadingClears rest
    | .caller n _ _, _ => [n]
    | .loader n _ _, _ => [n]
    | _, _ => []
  | .forget n _ => [n]
  | .childDone .. | .relay .. => []

/-- The names the next turn of a run may touch. -/
def turnNames (r : Run) : List String :=
  match r.queue with
  | [] => []
  | e :: _ => eventNames r e

/-- The step of a caller: it joins a load or takes its ending after clearing its name when
it refreshes, or starts a loader of its name; either way it touches only its name. -/
theorem turnShape_callerStart {r₁ : Run} (hs : Still r r₁) (hF : r₁.ForgetsRight)
    {i : Nat} {m src : String} {refresh : Bool} (hρ : (r₁.task i).role = .caller m src refresh)
    (hm : m ∈ ns) : TurnShape ns r (r₁.callerStart i m src refresh) := by
  have hi : (r₁.task i).role.forgets = [] := by rw [hρ]; rfl
  have hlt : i < r₁.tasks.size := lt_of_ne_client r₁ (by rw [hρ]; nofun)
  -- a refresh clears the name first: that is clearing `[m]`, and clearing nothing otherwise
  have hclear : (if refresh then r₁.setCache (·.clear m) else r₁) =
      r₁.setCache (·.clearAll (if refresh then [m] else [])) := by
    cases refresh <;> rfl
  have hms : ∀ k ∈ (if refresh then [m] else []), k ∈ ns := by
    cases refresh <;> simp [hm]
  rcases callerStart_cases r₁ hF hi hlt m src refresh with hcalm | ⟨hnone, hcalm⟩
  · rw [hclear] at hcalm
    exact .clears _ hs hms hcalm.still
  · rw [hclear] at hnone hcalm
    exact .starts _ m src hs hms hm hnone hcalm.still

/-- The step of a loader: calm, or calm up to its end, which publishes only under its
name's current generation. -/
theorem turnShape_loaderTurn {r₁ r' : Run} (hs : Still r r₁) {l : Nat} {m src : String} {g : Nat}
    (hρ : (r₁.task l).role = .loader m src g) (hend : (r₁.task l).ending = none) (hm : m ∈ ns)
    (ht : r₁.LoaderTurn r' l) : TurnShape ns r r' := by
  rcases ht with hcalm | ⟨r₂, hc₂, r₃, e, rfl, hfin⟩
  · exact .still (hs.trans hcalm.still)
  have hs₂ := hs.trans hc₂.still
  have hρ₂ : (r₂.task l).role = .loader m src g := (hc₂.loader l m src g).2 hρ
  have hend₂ : (r₂.task l).ending = none := by rw [hc₂.ending l m src g hρ, hend]
  rcases hfin with hc₃ | ⟨m', src', s, hρ', hc₃⟩
  · exact .ends l e hs₂ hend₂ hc₃.still rfl
  · -- the loader publishes the snapshot of its own name
    have hm' : m' = m := by
      rw [hρ₂] at hρ'
      cases hρ'
      rfl
    subst hm'
    exact .publishes l m' src' s e hs₂ hρ' hend₂ hm hc₃.still rfl

/-- The step of a task. -/
theorem turnShape_stepTask (hc : r.Coherent) {rest : List Event} (i : Nat) (thrown : Bool) :
    TurnShape (eventNames r (.step i thrown)) r
      (({ r with queue := rest } : Run).stepTask i thrown) := by
  rw [stepTask_eq]
  split
  · exact .still still_pop
  · next hend =>
    simp only [task_pop] at hend ⊢
    have hc₁ : Calm ({ r with queue := rest } : Run)
        (({ r with queue := rest } : Run).setTask i fun t =>
          { t with mustCancel := false, waitsOn := none }) :=
      calm_setTask _ _ (fun _ => rfl) (fun _ => rfl) fun _ => rfl
    have hs₁ := still_pop.trans hc₁.still
    have hF₁ : ForgetsRight (({ r with queue := rest } : Run).setTask i fun t =>
        { t with mustCancel := false, waitsOn := none }) := hc₁.forgetsRight hc.forgets
    have htask : ((({ r with queue := rest } : Run).setTask i fun t =>
        { t with mustCancel := false, waitsOn := none }).task i).role = (r.task i).role ∧
        ((({ r with queue := rest } : Run).setTask i fun t =>
          { t with mustCancel := false, waitsOn := none }).task i).ending = (r.task i).ending := by
      rw [task_setTask]
      split <;> exact ⟨rfl, rfl⟩
    generalize (({ r with queue := rest } : Run).setTask i fun t =>
      { t with mustCancel := false, waitsOn := none }) = r₁ at hs₁ hF₁ htask
    generalize (thrown || (r.task i).mustCancel) = th
    cases hρ : (r.task i).role with
    | client =>
      refine .clears _ hs₁ ?_ (resume_client r₁ hF₁ (htask.1.trans hρ) th _).still
      intro k hk
      cases hph : (r.task i).phase <;> simp_all [eventNames]
    | caller m src refresh =>
      have hm : m ∈ eventNames r (.step i thrown) := by simp [eventNames, hρ]
      rcases resume_caller r₁ hF₁ (htask.1.trans hρ) th (r.task i).phase with hcalm | ⟨-, -, he⟩
      · exact .still (hs₁.trans hcalm.still)
      · rw [he]
        exact turnShape_callerStart hs₁ hF₁ (htask.1.trans hρ) hm
    | loader m src g =>
      have hm : m ∈ eventNames r (.step i thrown) := by simp [eventNames, hρ]
      have hend' : (r₁.task i).ending = none := by
        rw [htask.2]
        simpa using hend
      exact turnShape_loaderTurn hs₁ (htask.1.trans hρ) hend' hm (resume_loader r₁ th _)
    | database l d => exact .still (hs₁.trans (resume_database r₁ hF₁ (htask.1.trans hρ) th _).still)
    | columns l d t => exact .still (hs₁.trans (resume_columns r₁ hF₁ (htask.1.trans hρ) th _).still)

/-- **The shape of a turn**: every turn of a coherent run touches only the names of its event,
in one of the ways `TurnShape` lists. -/
theorem turnShape (hc : r.Coherent) {e : Event} {rest : List Event} :
    TurnShape (eventNames r e) r (({ r with queue := rest } : Run).handle e) := by
  cases e with
  | step i thrown => exact turnShape_stepTask hc i thrown
  | forget m l =>
    simp only [handle]
    split
    · exact .forgets m still_pop (by simp [eventNames]) rfl
    · exact .still still_pop
  | childDone g c => exact .still (still_pop.trans (calm_childDone _ g c).still)
  | relay l f =>
    simp only [handle]
    split
    · exact .still (still_pop.trans (calm_settle _ f _).still)
    · exact .still (still_pop.trans (calm_settle _ f _).still)
    · exact .still still_pop

theorem turnShape_turn (hc : r.Coherent) : TurnShape r.turnNames r r.turn := by
  cases hq : r.queue with
  | nil =>
    simp only [turn, turnNames, hq]
    exact .still (Still.refl r)
  | cons e rest =>
    simp only [turn, turnNames, hq]
    exact turnShape hc

/-! ## What a turn does to one name -/

namespace Still

theorem entry (h : Still r r') (n : String) : r'.world.cache.entry n = r.world.cache.entry n := by
  rw [h.cache]

/-- A task of `r'` is a new loader only if it was one of `r`. -/
theorem not_loader (h : Still r r') {l : Nat} {m src : String} {g : Nat}
    (hnew : (r.task l).role ≠ .loader m src g) : (r'.task l).role ≠ .loader m src g :=
  fun hl => hnew ((h.loader l m src g).1 hl)

end Still

theorem role_finish {l j : Nat} {e : Ending} : ((r.finish l e).task j).role = (r.task j).role := by
  rw [task_finish]
  split <;> rfl

@[simp] theorem generation_startLoad {m src : String} :
    (r.startLoad m src).world.cache.generation n = r.world.cache.generation n := rfl

theorem entry_startLoad {m src : String} (h : n ≠ m) :
    (r.startLoad m src).world.cache.entry n = r.world.cache.entry n := by
  simp [Cache.entry, Cache.snapshot?, h]

theorem entry_forget {m : String} (h : n ≠ m) :
    (r.setCache fun c => { c with inflight := eraseKey c.inflight m }).world.cache.entry n =
      r.world.cache.entry n := by
  simp [Cache.entry, Cache.snapshot?, h]

/-- **A turn touches only the names of its event**: every other name keeps its snapshot, its
load in flight and its generation. -/
theorem TurnShape.entry (h : TurnShape ns r r') (hn : n ∉ ns) :
    r'.world.cache.entry n = r.world.cache.entry n := by
  -- a name of the event is not `n`
  have hne : ∀ {m}, m ∈ ns → n ≠ m := fun hm h => hn (by rw [h]; exact hm)
  cases h with
  | still hs => exact hs.entry n
  | clears ms hs hms hs' =>
    rw [hs'.entry n, setCache_cache,
      Cache.entry_clearAll_of_not_mem _ n fun hm => hn (hms n hm), hs.entry n]
  | starts ms m src hs hms hm _ hs' =>
    rw [hs'.entry n, entry_startLoad (hne hm), setCache_cache,
      Cache.entry_clearAll_of_not_mem _ n fun hm' => hn (hms n hm'), hs.entry n]
  | ends l e hs _ hs₂ hr' =>
    rw [hr', finish_world, hs₂.entry n, hs.entry n]
  | publishes l m src s e hs _ _ hm hs₂ hr' =>
    rw [hr', finish_world, hs₂.entry n, setCache_cache,
      Cache.entry_publish_of_ne _ m n s (hne hm), hs.entry n]
  | forgets m hs hm hr' =>
    rw [hr', entry_forget (hne hm), hs.entry n]

/-- A loader that ends in a turn has ended after it. -/
theorem ending_finish_isSome {r₂ : Run} {l : Nat} {m src : String} {g : Nat} {e : Ending}
    (hl : (r₂.task l).role = .loader m src g) : ((r₂.finish l e).task l).ending.isSome := by
  rw [task_finish_self _ _ (lt_of_ne_client r₂ (by rw [hl]; nofun))]
  rfl

/-- **A snapshot changes only by a clear or by a publication under its start generation**:
when a turn changes the snapshot of a name, it advances the name's generation, or a loader
of the name started under the name's current generation, that had not ended, ends in it. -/
theorem TurnShape.snapshot (h : TurnShape ns r r')
    (hs : r'.world.cache.snapshot? n ≠ r.world.cache.snapshot? n) :
    r.world.cache.generation n < r'.world.cache.generation n ∨
      ∃ l src, (r.task l).role = .loader n src (r.world.cache.generation n) ∧
        (r.task l).ending = none ∧ (r'.task l).ending.isSome := by
  -- a name whose entry the turn keeps keeps its snapshot
  have hkeep : r'.world.cache.entry n = r.world.cache.entry n → False := fun he =>
    hs (congrArg Prod.fst he)
  cases h with
  | still h₁ => exact (hkeep (h₁.entry n)).elim
  | clears ms h₀ _ h₁ =>
    by_cases hm : n ∈ ms
    · left
      rw [h₁.cache, setCache_cache, ← h₀.cache]
      exact (Cache.clearAll_of_mem _ n hm).2.2
    · refine (hkeep ?_).elim
      rw [h₁.entry n, setCache_cache, Cache.entry_clearAll_of_not_mem _ n hm, h₀.entry n]
  | starts ms m src h₀ _ _ _ h₁ =>
    -- starting a loader touches no snapshot and no generation
    by_cases hm : n ∈ ms
    · left
      have hgen : r'.world.cache.generation n = (r.world.cache.clearAll ms).generation n := by
        simp only [h₁.cache, generation_startLoad, setCache_cache, h₀.cache]
      rw [hgen]
      exact (Cache.clearAll_of_mem _ n hm).2.2
    · refine (hs ?_).elim
      rw [h₁.cache, startLoad_cache, ← h₀.cache]
      exact congrArg Prod.fst (Cache.entry_clearAll_of_not_mem _ n hm)
  | ends l e h₀ _ h₂ hr' =>
    exact (hkeep (by rw [hr', finish_world, h₂.entry n, h₀.entry n])).elim
  | @publishes r₀ r₂ l m src s e h₀ hρ hend _ h₂ hr' =>
    by_cases hnm : n = m
    · subst hnm
      right
      have hρ₂ : (r₂.task l).role = .loader n src (r₀.world.cache.generation n) :=
        (h₂.loader l n src _).2 hρ
      refine ⟨l, src, ?_, ?_, ?_⟩
      · rw [← h₀.cache]
        exact (h₀.loader l n src _).1 hρ
      · rw [← h₀.ending l n src _ ((h₀.loader l n src _).1 hρ)]
        exact hend
      · rw [hr']
        exact ending_finish_isSome hρ₂
    · exact (hkeep (by
        rw [hr', finish_world, h₂.entry n, setCache_cache, Cache.entry_publish_of_ne _ m n s hnm,
          h₀.entry n])).elim
  | forgets m h₀ _ hr' =>
    refine (hs ?_).elim
    rw [hr', setCache_cache, h₀.cache]
    rfl

/-- **A turn starts a loader only under its name's current generation, and only for a name
with no current load or one it has just cleared.** -/
theorem TurnShape.loader (hc : r.Coherent) (h : TurnShape ns r r') {l : Nat} {src : String}
    {g : Nat} (hl : (r'.task l).role = .loader n src g) (hnew : (r.task l).role ≠ .loader n src g) :
    g = r'.world.cache.generation n ∧
      ((∀ l', ¬ r.Current n l') ∨ r.world.cache.generation n < r'.world.cache.generation n) := by
  cases h with
  | still h₁ => exact (h₁.not_loader hnew hl).elim
  | clears ms h₀ _ h₁ => exact (hnew ((h₀.loader l n src g).1 ((h₁.loader l n src g).1 hl))).elim
  | ends l' e h₀ _ h₂ hr' =>
    rw [hr', role_finish] at hl
    exact ((h₀.trans h₂).not_loader hnew hl).elim
  | publishes l' m src' s e h₀ _ _ _ h₂ hr' =>
    rw [hr', role_finish] at hl
    exact (hnew ((h₀.loader l n src g).1 ((h₂.loader l n src g).1 hl))).elim
  | forgets m h₀ _ hr' =>
    rw [hr', task_setCache] at hl
    exact (h₀.not_loader hnew hl).elim
  | @starts r₀ ms m src' h₀ _ _ hnone h₁ =>
    have hl' := (h₁.loader l n src g).1 hl
    rw [task_startLoad] at hl'
    split at hl'
    · -- the new loader, of the caller's name under the generation after the clears
      obtain ⟨rfl, rfl, hg⟩ := Role.loader.inj hl'
      have hgen : r'.world.cache.generation m = (r.world.cache.clearAll ms).generation m := by
        simp only [h₁.cache, generation_startLoad, setCache_cache, h₀.cache]
      refine ⟨by simp only [← hg, hgen, setCache_cache, h₀.cache], ?_⟩
      by_cases hm : m ∈ ms
      · right
        rw [hgen]
        exact (Cache.clearAll_of_mem _ m hm).2.2
      · left
        intro l' hcur
        have hin := (hc.inflight m l').2 hcur
        have hkeep : (r₀.world.cache.clearAll ms).inflight.lookup m = r₀.world.cache.inflight.lookup m :=
          congrArg (fun x => x.2.1) (Cache.entry_clearAll_of_not_mem r₀.world.cache m hm)
        simp only [setCache_cache] at hnone
        rw [hkeep, h₀.cache, hin] at hnone
        cases hnone
    · exact (h₀.not_loader hnew (by simpa using hl')).elim

end Run

/-! ## Along every run of a plan -/

namespace World

/-- **Loads coalesce, clears supersede them, names stay apart.**  Along every run of a plan
from a cache with no load in flight, at every state `r` and over its next turn: the load in
flight of a name is its current load, a loader of the name under its current generation
that the cache has not forgotten, ended or not; the turn keeps the snapshot, the load in
flight and the generation of every name but those of its event; it changes the snapshot of
a name only by clearing it, which advances its generation, or by ending a loader of the
name that started under the name's current generation, so that no clear came between its
start and its end; it starts a loader of a name only under the name's generation after the
turn, and only when the name had no current load or the turn cleared it; and no loader has
ended cancelled, whichever of its callers the plan cancelled. -/
theorem perform_coalesces (w : World) (plan : List Plan)
    (hfree : ∀ n, w.cache.inflight.lookup n = none) (k : Nat) :
    let r : Run := Run.drain k (Run.start w plan)
    (∀ n l, r.world.cache.inflight.lookup n = some l ↔ r.Current n l) ∧
    (∀ n ∉ r.turnNames, r.turn.world.cache.entry n = r.world.cache.entry n) ∧
    (∀ n, r.turn.world.cache.snapshot? n ≠ r.world.cache.snapshot? n →
      r.world.cache.generation n < r.turn.world.cache.generation n ∨
        ∃ l src, (r.task l).role = .loader n src (r.world.cache.generation n) ∧
          (r.task l).ending = none ∧ (r.turn.task l).ending.isSome) ∧
    (∀ l n src g, (r.turn.task l).role = .loader n src g → (r.task l).role ≠ .loader n src g →
      g = r.turn.world.cache.generation n ∧
        ((∀ l', ¬ r.Current n l') ∨ r.world.cache.generation n < r.turn.world.cache.generation n)) ∧
    (∀ l n src g, (r.task l).role = .loader n src g → (r.task l).ending ≠ some .cancelled) := by
  intro r
  have hc : r.Coherent := (Run.Coherent.start hfree plan).drain k
  have hshape := Run.turnShape_turn hc
  exact ⟨hc.inflight, fun n hn => hshape.entry hn, fun n hs => hshape.snapshot hs,
    fun l n src g hl hnew => hshape.loader hc hl hnew,
    fun l n src g hl => Run.Shielded.loader_not_cancelled w plan k l (by rw [hl]; rfl)⟩

/-- Two loads of a name from an empty cache: after three turns the first caller's loader is
the load in flight of the name, as it is its current load. -/
theorem perform_coalesces_two_loads :
    (Run.drain 3 (Run.start {} [.load "a" "s", .load "a" "s"])).world.cache.inflight.lookup "a" =
        some 2 ↔
      (Run.drain 3 (Run.start {} [.load "a" "s", .load "a" "s"])).Current "a" 2 :=
  (perform_coalesces {} [.load "a" "s", .load "a" "s"] (fun _ => rfl) 3).1 "a" 2

-- Two callers share a load and the plan then cancels the first: the first ends cancelled and
-- the second still receives the load's outcome.
example : ((World.perform {} [.load "a" "s", .load "a" "s", .cancel 0]).2 matches
    [some .cancelled, some .done, none]) = true := by
  decide +kernel

/-- **A load asked for after the load in flight has ended joins it.**  With a source that
fails the database list at once, the client's second load of a name is issued after the
first loader has ended but before the cache has handled its forgetting: after four turns
the loader has ended and is still the load in flight, the next turn, the second caller's
start, starts no task and ends the caller with the loader's ending, and the source is asked
for the database list once in the whole run. -/
theorem second_load_joins_ended_load :
    let w : World :=
      { sources := [("s", .scripted [("databases", .failsAtOnce ⟨"ValueError", "x"⟩)] [])] }
    let r : Run := Run.drain 4 (Run.start w [.load "a" "s", .load "a" "s"])
    ((r.task 2).ending.isSome ∧ r.world.cache.inflight.lookup "a" = some 2 ∧
      r.turn.tasks.size = r.tasks.size ∧ (r.turn.task 3).ending.isSome) ∧
    ((w.perform [.load "a" "s", .load "a" "s"]).1.sources.lookup "s").map Source.asked =
      some ["databases"] := by
  decide +kernel

end World

end SqlAssist.Schema
