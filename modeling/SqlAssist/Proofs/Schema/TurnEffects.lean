import SqlAssist.Proofs.Schema.Updates

/-!
# What a turn does to the cache and its loads

The cache keeps, per name, a snapshot, the load in flight and a generation.  A run keeps
its loads as loader tasks, whose role names the name they load and the generation they
started under, and the cache forgets a finished load through the event that the loader's
end queues.  Most updates leave all of that alone: a *calm* change (`Run.Calm`) keeps the
cache, which tasks are loaders and how those ended, the forget callbacks of every task
and the forget events of the queue, to which it adds only other events.  Calm changes
compose, and every update but a few is one.

This file says, role by role, what a step does beyond calm changes:

* the client's turn clears the names of the leading clears of its plan, and is calm
  after them (`resume_client`);
* a caller's turn clears its name when it refreshes, then joins the load in flight
  calmly or, with none in flight, starts a loader and records it as the load in flight
  (`resume_caller`);
* a loader's turn is calm, or calm up to the loader's end, which comes after at most a
  log record and, under the name's current generation, a publication (`resume_loader`);
* the steps of the tasks that fetch a database's tables or a table's columns are calm
  (`resume_database`, `resume_columns`).

The tasks other than loaders forget nothing when they end (`Run.ForgetsRight`): their
ends are calm.

## Main statements

* `Run.Calm`, with `Calm.refl`, `Calm.trans` and one lemma per update.
* `Run.resume_client`, `Run.resume_caller`, `Run.resume_loader`, `Run.resume_database`,
  `Run.resume_columns`: a step by the role of its task.
-/

namespace SqlAssist.Schema

/-- The name whose load a callback forgets. -/
def Callback.forgetName? : Callback → Option String
  | .forget n => some n
  | .childDone _ | .relay _ | .wake _ => none

/-- The names whose loads a list of callbacks forgets. -/
def forgetNames (cbs : List Callback) : List String := cbs.filterMap Callback.forgetName?

/-- The names whose loads a task of a role forgets when it ends: a loader its own name,
other tasks none. -/
def Role.forgets : Role → List String
  | .loader n _ _ => [n]
  | .client | .caller .. | .database .. | .columns .. => []

/-- Whether an event is the cache forgetting a load. -/
def Event.isForget : Event → Bool
  | .forget .. => true
  | .step .. | .childDone .. | .relay .. => false

/-- Clear the names of a list, one by one. -/
def Cache.clearAll (c : Cache) (ns : List String) : Cache := ns.foldl Cache.clear c

/-- The names of the clears at the head of a plan, which the client carries out in one
turn. -/
def Plan.leadingClears : List Plan → List String
  | .clear n :: rest => n :: leadingClears rest
  | .cancel _ :: rest => leadingClears rest
  | _ => []

@[simp] theorem forgetNames_nil : forgetNames [] = [] := rfl

/-- A role that forgets nothing is no loader. -/
theorem Role.forgets_eq_nil {ρ : Role} (h : ρ.forgets = []) (n src : String) (g : Nat) :
    ρ ≠ .loader n src g := by
  rintro rfl
  simp [Role.forgets] at h

/-- A role that is no loader forgets nothing. -/
theorem Role.forgets_of_not_loader {ρ : Role} (h : ∀ n src g, ρ ≠ .loader n src g) :
    ρ.forgets = [] := by
  cases ρ with
  | loader n src g => exact (h n src g rfl).elim
  | _ => rfl

/-- The events of callbacks that forget nothing are no forget events. -/
theorem isForget_event {cbs : List Callback} (h : forgetNames cbs = []) (i : Nat) :
    ∀ x ∈ cbs.map (Callback.event i), x.isForget = false := by
  intro x hx
  obtain ⟨c, hc, rfl⟩ := List.mem_map.1 hx
  have hnone : c.forgetName? = none := by
    simp only [forgetNames, List.filterMap_eq_nil_iff] at h
    exact h c hc
  cases c <;> simp_all [Callback.event, Event.isForget, Callback.forgetName?]

namespace Run

variable {r r' r'' : Run} {i : Nat}

/-- `r'` is `r` after changes that leave alone what the cache's record of loads reads: the
cache itself, which tasks are loaders and how the loaders ended, the forget callbacks of
every task, and the forget events of the queue, after which only other events are
queued. -/
structure Calm (r r' : Run) : Prop where
  cache : r'.world.cache = r.world.cache
  loader : ∀ l n src g, (r'.task l).role = .loader n src g ↔ (r.task l).role = .loader n src g
  ending : ∀ l n src g, (r.task l).role = .loader n src g → (r'.task l).ending = (r.task l).ending
  forgets : ∀ i, forgetNames (r'.task i).callbacks = forgetNames (r.task i).callbacks
  queue : ∃ new, r'.queue = r.queue ++ new ∧ ∀ x ∈ new, x.isForget = false

/-- Every task forgets, when it ends, the load of its own name if it is a loader, and
nothing else. -/
def ForgetsRight (r : Run) : Prop :=
  ∀ i, forgetNames (r.task i).callbacks = (r.task i).role.forgets

namespace Calm

theorem refl (r : Run) : Calm r r :=
  ⟨rfl, fun _ _ _ _ => .rfl, fun _ _ _ _ _ => rfl, fun _ => rfl, ⟨[], by simp, by simp⟩⟩

theorem trans (h₁ : Calm r r') (h₂ : Calm r' r'') : Calm r r'' where
  cache := h₂.cache.trans h₁.cache
  loader l n src g := (h₂.loader l n src g).trans (h₁.loader l n src g)
  ending l n src g hl := (h₂.ending l n src g ((h₁.loader l n src g).2 hl)).trans
    (h₁.ending l n src g hl)
  forgets i := (h₂.forgets i).trans (h₁.forgets i)
  queue := by
    obtain ⟨new₁, hq₁, hn₁⟩ := h₁.queue
    obtain ⟨new₂, hq₂, hn₂⟩ := h₂.queue
    refine ⟨new₁ ++ new₂, by rw [hq₂, hq₁, List.append_assoc], fun x hx => ?_⟩
    rcases List.mem_append.1 hx with hx | hx
    · exact hn₁ x hx
    · exact hn₂ x hx

/-- A change of nothing but what the cache's record of loads does not read is calm. -/
theorem of_tasks (ht : r'.tasks = r.tasks) (hq : r'.queue = r.queue)
    (hc : r'.world.cache = r.world.cache) : Calm r r' := by
  have htask : ∀ k, r'.task k = r.task k := task_eq_of_tasks ht
  exact ⟨hc, fun l n src g => by rw [htask], fun l _ _ _ _ => by rw [htask],
    fun k => by rw [htask], ⟨[], by simp [hq], by simp⟩⟩

/-- Calm changes keep the role of a task as far as forgetting goes. -/
theorem roleForgets (h : Calm r r') (i : Nat) : (r'.task i).role.forgets = (r.task i).role.forgets := by
  cases hρ : (r.task i).role with
  | loader n src g => rw [(h.loader i n src g).2 hρ]
  | _ =>
    refine Role.forgets_of_not_loader fun n src g hl => ?_
    have := (h.loader i n src g).1 hl
    rw [hρ] at this
    cases this

theorem forgetsRight (h : Calm r r') (hF : r.ForgetsRight) : r'.ForgetsRight := fun i => by
  rw [h.forgets i, hF i, h.roleForgets i]

/-- A forget event is queued after a calm change exactly when it was before. -/
theorem mem_forget (h : Calm r r') (n : String) (l : Nat) :
    Event.forget n l ∈ r'.queue ↔ Event.forget n l ∈ r.queue := by
  obtain ⟨new, hq, hn⟩ := h.queue
  rw [hq, List.mem_append]
  exact ⟨fun h' => h'.resolve_right fun hx => by simpa [Event.isForget] using hn _ hx, .inl⟩

/-- A calm change queues no forget event. -/
theorem filter_isForget (h : Calm r r') : r'.queue.filter Event.isForget = r.queue.filter Event.isForget := by
  obtain ⟨new, hq, hn⟩ := h.queue
  have hnew : new.filter Event.isForget = [] := List.filter_eq_nil_iff.2 fun x hx => by simp [hn x hx]
  rw [hq, List.filter_append, hnew, List.append_nil]

/-- A calm change stays calm when both sides make one change of the cache. -/
theorem setCache (h : Calm r r') (f : Cache → Cache) : Calm (r.setCache f) (r'.setCache f) where
  cache := by rw [setCache_cache, setCache_cache, h.cache]
  loader l n src g := by simpa only [task_setCache] using h.loader l n src g
  ending l n src g hl := by
    simp only [task_setCache] at hl ⊢
    exact h.ending l n src g hl
  forgets i := by simpa only [task_setCache] using h.forgets i
  queue := by simpa only [setCache_queue] using h.queue

end Calm

/-! ## The updates that are calm -/

section Updates

variable (r)

theorem calm_setTask (f : Task → Task) (hrole : ∀ t, (f t).role = t.role)
    (hend : ∀ t, (f t).ending = t.ending)
    (hcb : ∀ t, forgetNames (f t).callbacks = forgetNames t.callbacks) : Calm r (r.setTask i f) := by
  have htask : ∀ k, (r.setTask i f).task k = f (r.task k) ∨ (r.setTask i f).task k = r.task k :=
    fun k => by rw [task_setTask]; split <;> simp
  refine ⟨rfl, fun l n src g => ?_, fun l n src g _ => ?_, fun k => ?_, ⟨[], by simp, by simp⟩⟩
  · rcases htask l with h | h <;> rw [h]; rw [hrole]
  · rcases htask l with h | h <;> rw [h]; rw [hend]
  · rcases htask k with h | h <;> rw [h]; rw [hcb]

theorem calm_setGroup {g : Nat} (f : Group → Group) : Calm r (r.setGroup g f) :=
  Calm.of_tasks rfl rfl rfl

theorem calm_setStore {l : Nat} (f : Store → Store) : Calm r (r.setStore l f) :=
  Calm.of_tasks rfl rfl rfl

theorem calm_note (level : Log.Level) (msg : String) : Calm r (r.note level msg) :=
  Calm.of_tasks rfl rfl rfl

theorem calm_newFut (w : Nat) : Calm r (r.newFut w).1 :=
  Calm.of_tasks rfl rfl rfl

theorem calm_enqueue {e : Event} (he : e.isForget = false) : Calm r (r.enqueue e) :=
  ⟨rfl, fun _ _ _ _ => .rfl, fun _ _ _ _ _ => rfl, fun _ => rfl,
    ⟨[e], rfl, by simpa using he⟩⟩

theorem calm_settle (f : Nat) (st : FutState) : Calm r (r.settle f st) := by
  unfold settle
  split
  · rw [foldl_enqueue]
    refine ⟨rfl, fun _ _ _ _ => .rfl, fun _ _ _ _ _ => rfl, fun _ => rfl, ⟨_, rfl, ?_⟩⟩
    intro x hx
    obtain ⟨w, -, rfl⟩ := List.mem_map.1 hx
    rfl
  · exact Calm.refl r

theorem calm_cancelTask (c : Nat) : Calm r (r.cancelTask c) := by
  rcases cancelTask_cases r (i := c) with h | ⟨f, -, h⟩ | h <;> rw [h]
  · exact Calm.refl r
  · exact calm_settle r f .cancelled
  · exact calm_setTask r _ (fun _ => rfl) (fun _ => rfl) fun _ => rfl

theorem calm_cancelIssued (entry : Nat) : Calm r (r.cancelIssued entry) := by
  unfold cancelIssued
  split
  · exact calm_cancelTask r _
  · exact Calm.refl r

theorem calm_foldl_cancelTask (cs : List Nat) : Calm r (cs.foldl (fun r t => r.cancelTask t) r) := by
  induction cs generalizing r with
  | nil => exact Calm.refl r
  | cons c cs ih => exact (calm_cancelTask r c).trans (ih _)

theorem calm_abort (g : Nat) : Calm r (r.abort g) :=
  (calm_setGroup r _).trans (calm_foldl_cancelTask _ _)

theorem calm_childDone (g c : Nat) : Calm r (r.childDone g c) := by
  rw [childDone_eq]
  have hlive : Calm r (r.noteLive g c) := by
    rcases noteLive_cases r (g := g) (c := c) with h | ⟨f, h⟩ <;> rw [h]
    · exact calm_setGroup r _
    · exact (calm_setGroup r _).trans (calm_settle _ f _)
  refine hlive.trans ?_
  unfold noteFailure
  split
  · dsimp only
    split
    · exact ((calm_setGroup _ _).trans (calm_abort _ g)).trans
        ((calm_setGroup _ _).trans (calm_cancelTask _ _))
    · exact calm_setGroup _ _
  · exact Calm.refl _

theorem calm_exitCancel (g : Nat) (thrown : Bool) : Calm r (r.exitCancel g thrown) := by
  unfold exitCancel
  split
  · exact (calm_setGroup r _).trans (calm_abort _ g)
  · exact Calm.refl r

/-- Starting a task that is no loader and forgets nothing is calm. -/
theorem calm_spawn (role : Role) (cbs : List Callback) (ph : Phase) (hrole : role.forgets = [])
    (hcb : forgetNames cbs = []) : Calm r (r.spawn role cbs ph).1 := by
  have hnew : ∀ n src g, (r.task r.tasks.size).role ≠ .loader n src g := by
    rw [task_of_size_le r (Nat.le_refl _)]
    intro n src g h
    cases h
  have hnewcb : forgetNames (r.task r.tasks.size).callbacks = [] := by
    rw [task_of_size_le r (Nat.le_refl _)]
    rfl
  refine ⟨rfl, fun l n src g => ?_, fun l n src g hl => ?_, fun k => ?_,
    ⟨_, spawn_queue r role cbs ph, by simp [Event.isForget]⟩⟩
  · rw [task_spawn]
    split
    · next h =>
      subst h
      exact ⟨fun h' => (Role.forgets_eq_nil hrole n src g h').elim,
        fun h' => (hnew n src g h').elim⟩
    · exact .rfl
  · rw [task_spawn]
    split
    · next h =>
      subst h
      exact (hnew n src g hl).elim
    · rfl
  · rw [task_spawn]
    split
    · next h =>
      subst h
      rw [hnewcb]
      exact hcb
    · rfl

/-- Starting a group of tasks that are no loaders is calm. -/
theorem calm_startGroup (o : Nat) (roles : List Role) (hroles : ∀ ρ ∈ roles, ρ.forgets = []) :
    Calm r (r.startGroup o roles).1 := by
  -- a task past the old ones is a member, no loader, forgetting nothing, or it is no task
  have hnew : ∀ k, r.tasks.size ≤ k → (∀ n src g, (r.task k).role ≠ .loader n src g) ∧
      (∀ n src g, ((r.startGroup o roles).1.task k).role ≠ .loader n src g) ∧
      forgetNames ((r.startGroup o roles).1.task k).callbacks = [] ∧
      forgetNames (r.task k).callbacks = [] := by
    intro k hk
    rw [task_of_size_le r hk, task_startGroup_of_le r o roles hk]
    cases hρ : roles[k - r.tasks.size]? with
    | none => exact ⟨nofun, nofun, rfl, rfl⟩
    | some ρ =>
      have hρ' := hroles ρ (List.mem_of_getElem? hρ)
      exact ⟨nofun, fun n src g => Role.forgets_eq_nil hρ' n src g, by
        simp [forgetNames, Callback.forgetName?], rfl⟩
  refine ⟨by simp, fun l n src g => ?_, fun l n src g hl => ?_, fun k => ?_,
    ⟨_, startGroup_queue r o roles, fun x hx => by obtain ⟨c, -, rfl⟩ := List.mem_map.1 hx; rfl⟩⟩
  · by_cases hl : l < r.tasks.size
    · rw [task_startGroup_of_lt r o roles hl]
    · obtain ⟨h₁, h₂, -, -⟩ := hnew l (Nat.le_of_not_lt hl)
      exact ⟨fun h => (h₂ n src g h).elim, fun h => (h₁ n src g h).elim⟩
  · by_cases hl' : l < r.tasks.size
    · rw [task_startGroup_of_lt r o roles hl']
    · exact ((hnew l (Nat.le_of_not_lt hl')).1 n src g hl).elim
  · by_cases hk : k < r.tasks.size
    · rw [task_startGroup_of_lt r o roles hk]
    · obtain ⟨-, -, h₃, h₄⟩ := hnew k (Nat.le_of_not_lt hk)
      rw [h₃, h₄]

/-- The end of a task that is no loader and forgets nothing is calm. -/
theorem calm_finish (hF : r.ForgetsRight) (hi : (r.task i).role.forgets = []) (e : Ending) :
    Calm r (r.finish i e) := by
  have hcb : forgetNames (r.task i).callbacks = [] := (hF i).trans hi
  refine ⟨by simp, fun l n src g => ?_, fun l n src g hl => ?_, fun k => ?_,
    ⟨_, finish_queue r e, isForget_event hcb i⟩⟩
  · rw [task_finish]
    split <;> exact .rfl
  · rw [task_finish]
    split
    · next h =>
      obtain ⟨rfl, -⟩ := h
      exact (Role.forgets_eq_nil hi n src g hl).elim
    · rfl
  · rw [task_finish]
    split <;> rfl

end Updates

/-! ## Steps of tasks that are no loaders -/

section Plain

variable (r)

/-- An owner that is no loader ends its group's check by ending. -/
theorem groupEnd_of_forgets (hi : (r.task i).role.forgets = []) (g : Nat) :
    ∃ e, r.groupEnd i g = r.finish i e := by
  unfold groupEnd
  dsimp only
  split
  · exact ⟨_, rfl⟩
  · split
    · split
      · next hl => simp [hl, Role.forgets] at hi
      · exact ⟨_, rfl⟩
    · split
      · next hl => simp [hl, Role.forgets] at hi
      · exact ⟨_, rfl⟩

theorem calm_groupResume (hF : r.ForgetsRight) (hi : (r.task i).role.forgets = []) (g : Nat) :
    Calm r (r.groupResume i g) := by
  rw [groupResume_eq]
  split
  · exact ((calm_newFut r i).trans (calm_setGroup _ _)).trans
      (calm_setTask _ _ (fun _ => rfl) (fun _ => rfl) fun _ => rfl)
  · obtain ⟨e, he⟩ := groupEnd_of_forgets r hi g
    rw [he]
    exact calm_finish r hF hi e

/-- An owner that is no loader checks its group calmly. -/
theorem calm_groupExit (hF : r.ForgetsRight) (hi : (r.task i).role.forgets = []) (g : Nat)
    (thrown : Bool) : Calm r (r.groupExit i g thrown) := by
  rw [groupExit_eq]
  have h₁ := (calm_exitCancel r g thrown).trans
    (calm_setGroup _ (g := g) fun x => { x with fut := none })
  exact h₁.trans (calm_groupResume _ (h₁.forgetsRight hF) ((h₁.roleForgets i).trans hi) g)

/-- An owner that is no loader starts a group of tasks that are no loaders and checks it
calmly. -/
theorem calm_startExit (hF : r.ForgetsRight) (hi : (r.task i).role.forgets = [])
    (roles : List Role) (hroles : ∀ ρ ∈ roles, ρ.forgets = []) :
    Calm r ((r.startGroup i roles).1.groupExit i (r.startGroup i roles).2 false) := by
  have h₁ := calm_startGroup r i roles hroles
  exact h₁.trans (calm_groupExit _ (h₁.forgetsRight hF) ((h₁.roleForgets i).trans hi) _ _)

/-- A question for names yields calmly, or goes on with the answer from a run that differs
from `r` in its sources only. -/
theorem fetchNames_of {P : Run → Prop} {src : String} {d : Option Value}
    {go : Run → Except FetchError (List Value) → Run} (hcalm : ∀ r', Calm r r' → P r')
    (hgo : ∀ r₁ o, Calm r r₁ → r₁.tasks = r.tasks → P (go r₁ o)) :
    P (r.fetchNames i src d go) := by
  have hask : Calm r (r.ask src (·.askNames d) []).1 := Calm.of_tasks (by simp) (by simp) (by simp)
  have htasks : (r.ask src (·.askNames d) []).1.tasks = r.tasks := by simp
  unfold fetchNames
  generalize r.ask src (·.askNames d) [] = a at hask htasks
  obtain ⟨r₁, reply⟩ := a
  dsimp only at hask htasks ⊢
  split
  · exact hcalm _ ((hask.trans (calm_setTask _ _ (fun _ => by rfl) (fun _ => by rfl)
      fun _ => by rfl)).trans (calm_enqueue _ rfl))
  · exact hgo r₁ _ hask htasks

/-- A question for columns yields calmly, or goes on with the answer from a run that
differs from `r` in its sources only. -/
theorem fetchColumns_of {P : Run → Prop} {src : String} {d t : Value}
    {go : Run → Except FetchError (List ColumnEntry) → Run} (hcalm : ∀ r', Calm r r' → P r')
    (hgo : ∀ r₁ o, Calm r r₁ → r₁.tasks = r.tasks → P (go r₁ o)) :
    P (r.fetchColumns i src d t go) := by
  have hask : Calm r (r.ask src (·.askColumns d t) []).1 :=
    Calm.of_tasks (by simp) (by simp) (by simp)
  have htasks : (r.ask src (·.askColumns d t) []).1.tasks = r.tasks := by simp
  unfold fetchColumns
  generalize r.ask src (·.askColumns d t) [] = a at hask htasks
  obtain ⟨r₁, reply⟩ := a
  dsimp only at hask htasks ⊢
  split
  · exact hcalm _ ((hask.trans (calm_setTask _ _ (fun _ => by rfl) (fun _ => by rfl)
      fun _ => by rfl)).trans (calm_enqueue _ rfl))
  · exact hgo r₁ _ hask htasks

theorem calm_databaseTables (hF : r.ForgetsRight) (hi : (r.task i).role.forgets = [])
    (l : Nat) (d : Value) (o : Except FetchError (List Value)) :
    Calm r (r.databaseTables i l d o) := by
  unfold databaseTables
  split
  · exact calm_finish r hF hi _
  · split
    · exact calm_finish r hF hi _
    · dsimp only
      have h₁ := calm_setStore r (l := l) fun s =>
        { s with tables := KeyMap.put s.tables d ‹List Value› }
      have hF₁ := h₁.forgetsRight hF
      have hi₁ := (h₁.roleForgets i).trans hi
      split
      · exact h₁.trans (calm_finish _ hF₁ hi₁ _)
      · refine h₁.trans (calm_startExit _ hF₁ hi₁ _ fun ρ hρ => ?_)
        obtain ⟨t, -, rfl⟩ := List.mem_map.1 hρ
        rfl

theorem calm_columnsFetched (hF : r.ForgetsRight) (hi : (r.task i).role.forgets = [])
    (l : Nat) (d t : Value) (o : Except FetchError (List ColumnEntry)) :
    Calm r (r.columnsFetched i l d t o) := by
  unfold columnsFetched
  split
  · exact calm_finish r hF hi _
  · split
    · exact calm_finish r hF hi _
    · have h₁ := calm_setStore r (l := l) fun s =>
        { s with columns := KeyMap.put s.columns (d, t) ‹List ColumnEntry› }
      exact h₁.trans (calm_finish _ (h₁.forgetsRight hF) ((h₁.roleForgets i).trans hi) _)

/-- **The step of a database task is calm.** -/
theorem resume_database (hF : r.ForgetsRight) {l : Nat} {d : Value}
    (hρ : (r.task i).role = .database l d) (thrown : Bool) (ph : Phase) :
    Calm r (r.resume i thrown (.database l d) ph) := by
  have hi : (r.task i).role.forgets = [] := by rw [hρ]; rfl
  cases ph with
  | start =>
    simp only [resume]
    split
    · exact calm_finish r hF hi _
    · exact fetchNames_of r (fun _ h => h) fun r₁ o h₁ _ =>
        h₁.trans (calm_databaseTables _ (h₁.forgetsRight hF) ((h₁.roleForgets i).trans hi) _ _ _)
  | gotNames o =>
    simp only [resume]
    split
    · exact calm_finish r hF hi _
    · exact calm_databaseTables r hF hi _ _ _
  | grouped g => exact calm_groupExit r hF hi g thrown
  | _ => exact Calm.refl r

/-- **The step of a column task is calm.** -/
theorem resume_columns (hF : r.ForgetsRight) {l : Nat} {d t : Value}
    (hρ : (r.task i).role = .columns l d t) (thrown : Bool) (ph : Phase) :
    Calm r (r.resume i thrown (.columns l d t) ph) := by
  have hi : (r.task i).role.forgets = [] := by rw [hρ]; rfl
  cases ph with
  | start =>
    simp only [resume]
    split
    · exact calm_finish r hF hi _
    · exact fetchColumns_of r (fun _ h => h) fun r₁ o h₁ _ =>
        h₁.trans (calm_columnsFetched _ (h₁.forgetsRight hF) ((h₁.roleForgets i).trans hi) _ _ _ _)
  | gotColumns o =>
    simp only [resume]
    split
    · exact calm_finish r hF hi _
    · exact calm_columnsFetched r hF hi _ _ _ _
  | grouped g => exact calm_groupExit r hF hi g thrown
  | _ => exact Calm.refl r

end Plain

/-! ## The client and the callers -/

section Requests

variable (r)

/-- Clearing no name changes nothing. -/
@[simp] theorem setCache_clearAll_nil : r.setCache (·.clearAll []) = r := rfl

/-- Waiting for callers is calm: a caller is asked to wake the client, or the client ends. -/
theorem calm_clientAwait (hF : r.ForgetsRight) (hi : (r.task i).role.forgets = []) (cs : List Nat) :
    Calm r (r.clientAwait i cs) := by
  induction cs generalizing r with
  | nil => exact calm_finish r hF hi _
  | cons c cs ih =>
    unfold clientAwait
    split
    · exact ih r hF hi
    · exact (calm_setTask r _ (fun _ => by rfl) (fun _ => by rfl) fun t => by
          simp [forgetNames, Callback.forgetName?]).trans
        (calm_setTask _ _ (fun _ => by rfl) (fun _ => by rfl) fun _ => by rfl)

theorem calm_issueCaller (role : Role) (hrole : role.forgets = []) (rest : List Plan) :
    Calm r (r.issueCaller i role rest) := by
  have h₁ := calm_spawn r role [] .start hrole rfl
  unfold issueCaller
  generalize r.spawn role [] = s at h₁
  obtain ⟨r₁, c⟩ := s
  dsimp only at h₁ ⊢
  exact ((h₁.trans (Calm.of_tasks (by rfl) (by rfl) (by rfl))).trans
    (calm_setTask _ _ (fun _ => by rfl) (fun _ => by rfl) fun _ => by rfl)).trans
    (calm_enqueue _ rfl)

/-- **The client's issuing clears the names of the leading clears of its plan, then is
calm.** -/
theorem calm_clientIssue (hF : r.ForgetsRight) (hi : (r.task i).role.forgets = [])
    (rest : List Plan) :
    Calm (r.setCache (·.clearAll (Plan.leadingClears rest))) (r.clientIssue i rest) := by
  induction rest generalizing r with
  | nil => exact calm_clientAwait r hF hi _
  | cons p rest ih =>
    cases p with
    | clear n =>
      -- the clear is carried out at once; what the issued entries say is not read
      have h₁ := ih ({ r.setCache (·.clear n) with issued := r.issued ++ [none] }) hF hi
      rw [clientIssue]
      refine Calm.trans ?_ h₁
      exact Calm.of_tasks rfl rfl rfl
    | cancel k =>
      -- the cancel touches a caller's flags or its outcome only, and comes before the clears
      have hcalm : Calm r { r.cancelIssued k with issued := r.issued ++ [none] } :=
        (calm_cancelIssued r k).trans (Calm.of_tasks rfl rfl rfl)
      have h₁ := ih { r.cancelIssued k with issued := r.issued ++ [none] } (hcalm.forgetsRight hF)
        (by rw [hcalm.roleForgets i, hi])
      rw [clientIssue]
      exact (hcalm.setCache _).trans h₁
    | load n src => exact calm_issueCaller r _ rfl rest
    | refresh n src => exact calm_issueCaller r _ rfl rest

/-- A caller waits for a load, or takes the ending of a load that has ended, calmly. -/
theorem calm_shield (hF : r.ForgetsRight) (hi : (r.task i).role.forgets = []) (l : Nat) :
    Calm r (r.shield i l) := by
  unfold shield
  split
  · exact calm_finish r hF hi _
  · exact ((calm_newFut r i).trans (calm_setTask _ _ (fun _ => by rfl) (fun _ => by rfl) fun t => by
        simp [forgetNames, Callback.forgetName?])).trans
      (calm_setTask _ _ (fun _ => by rfl) (fun _ => by rfl) fun _ => by rfl)

/-- Start a loader of `n` from `src` under the current generation of `n`, and record it as
the load of `n` in flight. -/
def startLoad (r : Run) (n src : String) : Run :=
  (r.spawn (.loader n src (r.world.cache.generation n)) [.forget n]).1.setCache
    fun c => { c with inflight := setEntry c.inflight n r.tasks.size }

section StartLoad

variable (n src : String) {j : Nat}

theorem task_startLoad :
    (r.startLoad n src).task j =
      if j = r.tasks.size then
        { role := .loader n src (r.world.cache.generation n), callbacks := [.forget n] }
      else r.task j :=
  task_spawn r _ _ _

@[simp] theorem startLoad_cache :
    (r.startLoad n src).world.cache =
      { r.world.cache with inflight := setEntry r.world.cache.inflight n r.tasks.size } := rfl

@[simp] theorem startLoad_queue :
    (r.startLoad n src).queue = r.queue ++ [.step r.tasks.size false] := rfl

@[simp] theorem startLoad_size : (r.startLoad n src).tasks.size = r.tasks.size + 1 := by
  simp [startLoad]

theorem forgetsRight_startLoad (hF : r.ForgetsRight) : (r.startLoad n src).ForgetsRight := by
  intro k
  rw [task_startLoad]
  split
  · rfl
  · exact hF k

end StartLoad

/-- A task that is not the client is one of the run's tasks. -/
theorem lt_of_ne_client (h : (r.task i).role ≠ .client) : i < r.tasks.size :=
  Nat.lt_of_not_le fun hle => h (by rw [task_of_size_le r hle]; rfl)

/-- **A caller's start.**  A refresh clears the name first; then the caller joins the load
in flight calmly, or, with none in flight, starts a loader, records it as in flight, and
waits on it calmly. -/
theorem callerStart_cases (hF : r.ForgetsRight) (hi : (r.task i).role.forgets = [])
    (hlt : i < r.tasks.size) (n src : String) (refresh : Bool) :
    Calm (if refresh then r.setCache (·.clear n) else r) (r.callerStart i n src refresh) ∨
      ((if refresh then r.setCache (·.clear n) else r).world.cache.inflight.lookup n = none ∧
        Calm ((if refresh then r.setCache (·.clear n) else r).startLoad n src)
          (r.callerStart i n src refresh)) := by
  have htasks : (if refresh then r.setCache (·.clear n) else r).tasks = r.tasks := by
    split <;> rfl
  unfold callerStart
  generalize (if refresh then r.setCache (·.clear n) else r) = r₁ at htasks
  have htask : ∀ k, r₁.task k = r.task k := task_eq_of_tasks htasks
  have hF₁ : r₁.ForgetsRight := fun k => by rw [htask]; exact hF k
  have hi₁ : (r₁.task i).role.forgets = [] := by rw [htask]; exact hi
  dsimp only
  split
  · -- a load of the name is in flight: join it
    exact .inl ((calm_note r₁ _ _).trans
      (calm_shield (r₁.note .debug "Joining in-flight schema load") hF₁ hi₁ _))
  · -- none: start one and wait on it
    next hnone =>
    refine .inr ⟨hnone, ?_⟩
    show Calm _ ((r₁.startLoad n src).shield i r₁.tasks.size)
    refine calm_shield _ (forgetsRight_startLoad r₁ n src hF₁) ?_ _
    rw [task_startLoad, if_neg (by rw [htasks]; omega)]
    exact hi₁

/-- **A caller's step.**  It is calm, but for its start, when it is not cancelled: that
clears its name if it refreshes, then joins the load in flight calmly or starts a loader
as `callerStart_cases` says. -/
theorem resume_caller (hF : r.ForgetsRight) {n src : String} {refresh : Bool}
    (hρ : (r.task i).role = .caller n src refresh) (thrown : Bool) (ph : Phase) :
    Calm r (r.resume i thrown (.caller n src refresh) ph) ∨
      (ph = .start ∧ thrown = false ∧
        r.resume i thrown (.caller n src refresh) ph = r.callerStart i n src refresh) := by
  have hi : (r.task i).role.forgets = [] := by rw [hρ]; rfl
  cases ph with
  | start =>
    cases thrown
    · exact .inr ⟨rfl, rfl, rfl⟩
    · exact .inl (calm_finish r hF hi _)
  | shielded f =>
    refine .inl ?_
    simp only [resume]
    split
    · exact calm_finish r hF hi _
    · exact calm_finish r hF hi _
    · exact Calm.refl r
  | grouped g => exact .inl (calm_groupExit r hF hi g thrown)
  | _ => exact .inl (Calm.refl r)

/-- **The client's step clears the names of the leading clears of its plan, then is
calm**; a client that is not issuing clears nothing. -/
theorem resume_client (hF : r.ForgetsRight) (hρ : (r.task i).role = .client) (thrown : Bool)
    (ph : Phase) :
    Calm (r.setCache (·.clearAll (match ph with
        | .issuing rest => Plan.leadingClears rest
        | _ => []))) (r.resume i thrown .client ph) := by
  have hi : (r.task i).role.forgets = [] := by rw [hρ]; rfl
  cases ph with
  | issuing rest => exact calm_clientIssue r hF hi rest
  | awaiting cs => exact calm_clientAwait r hF hi cs
  | grouped g => exact calm_groupExit r hF hi g thrown
  | _ => exact Calm.refl r

end Requests

/-! ## The loaders -/

section Loaders

variable (r) {l : Nat}

/-- `r'` is the end of loader `l` from `r`: it ends after at most calm changes such as a
log record, or after a publication of a snapshot of its name under the name's current
generation and calm changes. -/
def LoaderEnd (r r' : Run) (l : Nat) : Prop :=
  ∃ r₂ e, r' = r₂.finish l e ∧
    (Calm r r₂ ∨ ∃ n src s, (r.task l).role = .loader n src (r.world.cache.generation n) ∧
      Calm (r.setCache (·.publish n s)) r₂)

/-- What a loader's turn does: changes calmly, or calmly up to the loader's end. -/
def LoaderTurn (r r' : Run) (l : Nat) : Prop :=
  Calm r r' ∨ ∃ r₁, Calm r r₁ ∧ LoaderEnd r₁ r' l

variable {r}

theorem LoaderTurn.calm_left {r₀ : Run} (h : Calm r₀ r) (ht : r.LoaderTurn r' l) :
    r₀.LoaderTurn r' l := by
  rcases ht with ht | ⟨r₁, h₁, he⟩
  · exact .inl (h.trans ht)
  · exact .inr ⟨r₁, h.trans h₁, he⟩

variable (r)

theorem loaderEnd_finish (e : Ending) : r.LoaderEnd (r.finish l e) l :=
  ⟨r, e, rfl, .inl (Calm.refl r)⟩

theorem loaderEnd_loadFailed (f : LoadFailure) : r.LoaderEnd (r.loadFailed l f) l := by
  unfold loadFailed
  split
  · exact ⟨_, _, rfl, .inl (calm_note r _ _)⟩
  · exact loaderEnd_finish r _

/-- A loader publishes only under its name's current generation. -/
theorem loaderEnd_publish : r.LoaderEnd (r.publish l) l := by
  unfold publish
  split
  · next n src g hρ =>
    dsimp only
    split
    · exact ⟨_, _, rfl, .inl (calm_note r _ _)⟩
    · next hg =>
      refine ⟨_, _, rfl, .inr ⟨n, src, _, ?_, calm_note _ _ _⟩⟩
      rw [hρ, Classical.not_not.1 hg]
  · exact loaderEnd_finish r _

theorem loaderEnd_groupEnd (g : Nat) : r.LoaderEnd (r.groupEnd l g) l := by
  unfold groupEnd
  dsimp only
  split
  · exact loaderEnd_finish r _
  · split
    · split
      · split
        · exact loaderEnd_loadFailed r _
        · exact loaderEnd_finish r _
      · exact loaderEnd_finish r _
    · split
      · exact loaderEnd_publish r
      · exact loaderEnd_finish r _

/-- An owner checks its group calmly, or calmly up to its end. -/
theorem loaderTurn_groupExit (g : Nat) (thrown : Bool) : r.LoaderTurn (r.groupExit l g thrown) l := by
  rw [groupExit_eq]
  have h₁ := (calm_exitCancel r g thrown).trans
    (calm_setGroup _ (g := g) fun x => { x with fut := none })
  refine LoaderTurn.calm_left h₁ ?_
  rw [groupResume_eq]
  split
  · exact .inl (((calm_newFut _ l).trans (calm_setGroup _ _)).trans
      (calm_setTask _ _ (fun _ => by rfl) (fun _ => by rfl) fun _ => by rfl))
  · exact .inr ⟨_, Calm.refl _, loaderEnd_groupEnd _ g⟩

/-- A loader with its databases fails, or starts a task for each and checks its group. -/
theorem loaderTurn_loaderDatabases (o : Except FetchError (List Value)) :
    r.LoaderTurn (r.loaderDatabases l o) l := by
  unfold loaderDatabases
  split
  · exact .inr ⟨r, Calm.refl r, loaderEnd_loadFailed r _⟩
  · next dbs =>
    dsimp only
    have h₁ := (calm_setStore r (l := l) fun _ => { databases := dbs }).trans
      (calm_startGroup _ l (dbs.map (Role.database l)) fun ρ hρ => by
        obtain ⟨d, -, rfl⟩ := List.mem_map.1 hρ
        rfl)
    exact LoaderTurn.calm_left h₁ (loaderTurn_groupExit _ _ false)

/-- **A loader's step** changes calmly, or calmly up to the loader's end. -/
theorem resume_loader {n src : String} {gen : Nat} (thrown : Bool) (ph : Phase) :
    r.LoaderTurn (r.resume l thrown (.loader n src gen) ph) l := by
  cases ph with
  | start =>
    simp only [resume]
    split
    · exact .inr ⟨r, Calm.refl r, loaderEnd_finish r _⟩
    · refine LoaderTurn.calm_left (calm_note r .info "Loading schema") ?_
      exact fetchNames_of _ (P := fun r' => (r.note .info "Loading schema").LoaderTurn r' l)
        (fun _ h => .inl h) fun r₁ o h₁ _ => LoaderTurn.calm_left h₁ (loaderTurn_loaderDatabases r₁ o)
  | gotNames o =>
    simp only [resume]
    split
    · exact .inr ⟨r, Calm.refl r, loaderEnd_finish r _⟩
    · exact loaderTurn_loaderDatabases r o
  | grouped g => exact loaderTurn_groupExit r g thrown
  | _ => exact .inl (Calm.refl r)

end Loaders

end Run

end SqlAssist.Schema
