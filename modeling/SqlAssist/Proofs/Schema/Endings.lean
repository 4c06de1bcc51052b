import SqlAssist.Proofs.Schema.LoadFrames

/-!
# Only a task's own step ends it

Every handler of a run is built from the primitive updates of
`SqlAssist.Proofs.Schema.Updates`, and of those only `finish` ends a task and only the
note of a member's end records a failure.  A handler calls `finish` only for the task
whose step it is, after it has checked that the task has not ended.  So a turn keeps
every task's role, keeps the phase and the ending of every task but the one that steps,
ends that one only if it had not ended, and records a failure only in the group that
notes a member's end, by appending that member's failure.  Callbacks are added to a task
only by a caller that waits on it or a client that waits on its caller, so no task
becomes a member of a group after it starts, and the members of a group are started
with the group.

`Run.Aside i r r'` says this of the updates between `r` and `r'`, made for a step of task
`i` (of no task when `i` is `none`).  It holds of every primitive update but `finish`
and the recording of a failure, it composes, and `finish` keeps it for the task that
steps; so it holds of every step (`Run.aside_stepTask`).

## Main statements

* `Run.ending_handle`: a turn ends only the task whose step it is, and only if it had not
  ended; every other task keeps its role, phase and ending (`Run.phase_handle`).
* `Run.errors_handle`: a turn records a failure only in the group whose note it is,
  appending the failure of the member it notes.
* `Run.callbacks_handle`, `Run.fresh_handle`: a turn adds no membership of a group to a
  task, and a task it starts is a member only of a group it starts.
-/

namespace SqlAssist.Schema

/-- `cbs'` is `cbs` with callbacks appended, none of which notes a group: a task's callbacks
grow only by relays and wakes. -/
def Callback.Grows (cbs cbs' : List Callback) : Prop :=
  ∃ extra, cbs' = cbs ++ extra ∧ ∀ g, Callback.childDone g ∉ extra

namespace Callback.Grows

variable {cbs cbs' cbs'' : List Callback}

theorem refl (cbs : List Callback) : Grows cbs cbs := ⟨[], by simp, by simp⟩

theorem trans (h₁ : Grows cbs cbs') (h₂ : Grows cbs' cbs'') : Grows cbs cbs'' := by
  obtain ⟨x, rfl, hx⟩ := h₁
  obtain ⟨y, rfl, hy⟩ := h₂
  exact ⟨x ++ y, by simp, fun g hg => (List.mem_append.1 hg).elim (hx g) (hy g)⟩

/-- A task that has come to be a member of a group after its callbacks grew was one
before. -/
theorem member (h : Grows cbs cbs') {g : Nat} (h' : cbs' = [.childDone g]) :
    cbs = [.childDone g] := by
  obtain ⟨x, rfl, hx⟩ := h
  rcases List.append_eq_singleton_iff.1 h' with ⟨-, rfl⟩ | ⟨hc, -⟩
  · exact absurd (List.mem_singleton_self _) (hx g)
  · exact hc

end Callback.Grows

namespace Run

variable {r r' r'' : Run} {i : Option Nat}

/-- `r'` is `r` after updates made for a step of task `i`, or of no task when `i` is
`none`: the tasks of `r` keep their roles, all but `i` keep their phases and endings, `i`
ends only if it had not, and every group keeps the failures it recorded.  The tasks of
`r` gain no membership of a group, and a new task is a member only of a new group. -/
structure Aside (i : Option Nat) (r r' : Run) : Prop where
  size : r.tasks.size ≤ r'.tasks.size
  role : ∀ j < r.tasks.size, (r'.task j).role = (r.task j).role
  phase : ∀ j < r.tasks.size, some j ≠ i → (r'.task j).phase = (r.task j).phase
  ending : ∀ j, (r'.task j).ending = (r.task j).ending ∨ (some j = i ∧ (r.task j).ending = none)
  errors : ∀ g, (r'.group g).errors = (r.group g).errors
  callbacks : ∀ j < r.tasks.size, Callback.Grows (r.task j).callbacks (r'.task j).callbacks
  groups : r.groups.size ≤ r'.groups.size
  fresh : ∀ j g, r.tasks.size ≤ j → (r'.task j).callbacks = [.childDone g] → r.groups.size ≤ g

namespace Aside

/-- A task past the end of the array is a member of no group. -/
theorem not_member_of_size_le {j g : Nat} (hj : r.tasks.size ≤ j) :
    (r.task j).callbacks ≠ [.childDone g] := by
  rw [task_of_size_le r hj]
  exact fun h => by cases h

theorem refl (i : Option Nat) (r : Run) : Aside i r r :=
  ⟨le_rfl, fun _ _ => rfl, fun _ _ _ => rfl, fun _ => .inl rfl, fun _ => rfl,
    fun _ _ => .refl _, le_rfl, fun _ _ hj h => absurd h (not_member_of_size_le hj)⟩

theorem trans (h₁ : Aside i r r') (h₂ : Aside i r' r'') : Aside i r r'' where
  size := le_trans h₁.size h₂.size
  role j hj := (h₂.role j (lt_of_lt_of_le hj h₁.size)).trans (h₁.role j hj)
  phase j hj hi := (h₂.phase j (lt_of_lt_of_le hj h₁.size) hi).trans (h₁.phase j hj hi)
  ending j := by
    rcases h₁.ending j with h | ⟨hj, hnone⟩
    · rcases h₂.ending j with h' | ⟨hj, hnone'⟩
      · exact .inl (h'.trans h)
      · exact .inr ⟨hj, h ▸ hnone'⟩
    · exact .inr ⟨hj, hnone⟩
  errors g := (h₂.errors g).trans (h₁.errors g)
  callbacks j hj := (h₁.callbacks j hj).trans (h₂.callbacks j (lt_of_lt_of_le hj h₁.size))
  groups := le_trans h₁.groups h₂.groups
  fresh j g hj hcb := by
    by_cases hj' : r'.tasks.size ≤ j
    · exact le_trans h₁.groups (h₂.fresh j g hj' hcb)
    · exact h₁.fresh j g hj ((h₂.callbacks j (by omega)).member hcb)

/-- Updates that end no task are made aside of any step. -/
theorem mono (h : Aside none r r') (i : Option Nat) : Aside i r r' where
  size := h.size
  role := h.role
  phase j hj _ := h.phase j hj (by simp)
  ending j := .inl ((h.ending j).resolve_right (by simp))
  errors := h.errors
  callbacks := h.callbacks
  groups := h.groups
  fresh := h.fresh

/-- With no task ended, every task keeps its ending. -/
theorem ending_eq (h : Aside none r r') (j : Nat) : (r'.task j).ending = (r.task j).ending :=
  (h.ending j).resolve_right (by simp)

/-- A change of nothing a step reads of the tasks and groups. -/
theorem of_views (hsize : r'.tasks.size = r.tasks.size) (ht : ∀ j, r'.task j = r.task j)
    (hg : ∀ g, (r'.group g).errors = (r.group g).errors)
    (hgs : r'.groups.size = r.groups.size) : Aside none r r' :=
  ⟨hsize.ge, fun j _ => by rw [ht], fun j _ _ => by rw [ht], fun j => .inl (by rw [ht]),
    hg, fun j _ => by rw [ht]; exact .refl _, hgs.ge,
    fun j _ hj hcb => absurd (ht j ▸ hcb) (not_member_of_size_le (hsize ▸ hj))⟩

theorem of_tasks (ht : r'.tasks = r.tasks) (hg : r'.groups = r.groups) : Aside none r r' :=
  of_views (by rw [ht]) (task_eq_of_tasks ht) (fun g => by rw [group_eq_of_groups hg])
    (by rw [hg])

/-- Task `j` keeps what it stands on, so nothing a step reads of it changes. -/
theorem of_standing (hsize : r'.tasks.size = r.tasks.size)
    (ht : ∀ j, (r'.task j).standing = (r.task j).standing)
    (hg : ∀ g, (r'.group g).errors = (r.group g).errors)
    (hgs : r'.groups.size = r.groups.size) : Aside none r r' :=
  ⟨hsize.ge, fun j _ => (Task.standing_eq (ht j)).1, fun j _ _ => (Task.standing_eq (ht j)).2.1,
    fun j => .inl (Task.standing_eq (ht j)).2.2.1, hg,
    fun j _ => by rw [(Task.standing_eq (ht j)).2.2.2]; exact .refl _, hgs.ge,
    fun j _ hj hcb => absurd ((Task.standing_eq (ht j)).2.2.2 ▸ hcb)
      (not_member_of_size_le (hsize ▸ hj))⟩

end Aside

/-! ## The primitive updates

Each lemma extends `Aside` by one update on the right, so that a proof peels the updates
of a handler from the outside in, reading each update off the goal. -/

namespace Aside

variable {j : Nat}

theorem setTask (h : Aside i r r') {f : Task → Task} (hrole : ∀ t, (f t).role = t.role)
    (hend : ∀ t, (f t).ending = t.ending) (hcb : ∀ t, Callback.Grows t.callbacks (f t).callbacks)
    (hphase : some j = i ∨ ∀ t, (f t).phase = t.phase) : Aside i r (r'.setTask j f) := by
  refine h.trans ⟨by simp, fun k _ => ?_, fun k _ hk => ?_, fun k => .inl ?_, fun g => by simp,
    fun k _ => ?_, by simp, fun k g hk hcb' => ?_⟩
  · rw [task_setTask]
    split <;> simp [hrole]
  · rw [task_setTask]
    split
    · next hjk =>
      rcases hphase with hji | hph
      · exact absurd (hjk.1 ▸ hji) hk
      · exact hph _
    · rfl
  · rw [task_setTask]
    split <;> simp [hend]
  · rw [task_setTask]
    split
    · exact hcb _
    · exact .refl _
  · rw [task_setTask, if_neg fun hc => absurd hc.2 (by omega)] at hcb'
    exact absurd hcb' (not_member_of_size_le hk)

theorem setGroup (h : Aside i r r') {g : Nat} {f : Group → Group}
    (herr : ∀ x, (f x).errors = x.errors) : Aside i r (r'.setGroup g f) :=
  h.trans ((of_views (by simp) (fun _ => rfl) (fun g' => by
    rw [group_setGroup]
    split <;> simp [herr]) (by simp) : Aside none r' (r'.setGroup g f)).mono i)

theorem setStore (h : Aside i r r') {l : Nat} {f : Store → Store} :
    Aside i r (r'.setStore l f) :=
  h.trans ((of_tasks (by simp) (by simp) : Aside none r' (r'.setStore l f)).mono i)

theorem setCache (h : Aside i r r') {f : Cache → Cache} : Aside i r (r'.setCache f) :=
  h.trans ((of_tasks (by simp) (by simp) : Aside none r' (r'.setCache f)).mono i)

theorem note (h : Aside i r r') {level : Log.Level} {msg : String} :
    Aside i r (r'.note level msg) :=
  h.trans ((of_tasks (by simp) (by simp) : Aside none r' (r'.note level msg)).mono i)

theorem enqueue (h : Aside i r r') {e : Event} : Aside i r (r'.enqueue e) :=
  h.trans ((of_tasks (by simp) (by simp) : Aside none r' (r'.enqueue e)).mono i)

theorem newFut (h : Aside i r r') {w : Nat} : Aside i r (r'.newFut w).1 :=
  h.trans ((of_tasks (by simp) (by simp) : Aside none r' (r'.newFut w).1).mono i)

theorem settle (h : Aside i r r') {f : Nat} {st : FutState} : Aside i r (r'.settle f st) :=
  h.trans ((of_tasks (by simp) (by simp) : Aside none r' (r'.settle f st)).mono i)

theorem ask (h : Aside i r r') {α : Type} {src : String} {q : Source → Source × Reply α}
    {nothing : α} : Aside i r (r'.ask src q nothing).1 :=
  h.trans ((of_tasks (by simp) (by simp) : Aside none r' (r'.ask src q nothing).1).mono i)

/-- A new task has not ended, as a task past the end of the array has not; started with
no note to a group, it is a member of none. -/
theorem spawn (h : Aside i r r') {role : Role} {cbs : List Callback} {ph : Phase}
    (hcb : ∀ g, Callback.childDone g ∉ cbs) : Aside i r (r'.spawn role cbs ph).1 := by
  have hnew : ∀ k, ((r'.spawn role cbs ph).1.task k).ending = (r'.task k).ending := fun k => by
    rw [task_spawn]
    split
    · next hk => rw [task_of_size_le r' (by omega)]; rfl
    · rfl
  refine h.trans ((⟨by simp, fun k hk => ?_, fun k hk _ => ?_, fun k => .inl (hnew k),
    fun g => rfl, fun k hk => ?_, le_rfl, fun k g hk hcb' => ?_⟩ : Aside none r' _).mono i)
  · rw [task_spawn, if_neg (by omega)]
  · rw [task_spawn, if_neg (by omega)]
  · rw [task_spawn, if_neg (by omega)]
    exact .refl _
  · rw [task_spawn] at hcb'
    split at hcb'
    · have hcbs : cbs = [.childDone g] := hcb'
      exact absurd (hcbs ▸ List.mem_singleton_self _) (hcb g)
    · exact absurd hcb' (not_member_of_size_le hk)

theorem cancelTask (h : Aside i r r') {c : Nat} : Aside i r (r'.cancelTask c) :=
  h.trans ((of_standing (by simp) (fun _ => standing_cancelTask r') (fun g => by
    simp only [Run.group, cancelTask_groups]) (by simp)).mono i)

theorem cancelIssued (h : Aside i r r') {k : Nat} : Aside i r (r'.cancelIssued k) := by
  rcases cancelIssued_cases r' k with ⟨c, -, hc⟩ | hc <;> rw [hc]
  · exact h.cancelTask
  · exact h

theorem abort (h : Aside i r r') {g : Nat} : Aside i r (r'.abort g) :=
  h.trans ((of_standing (by simp) (fun _ => standing_abort r') (fun g' => by
    simp only [Run.group, abort_groups]
    rw [← Run.group, ← Run.group, group_setGroup]
    split <;> rfl) (by simp [abort_groups])).mono i)

/-- The members of a new group are new tasks, members of the new group only, and the new
group has recorded nothing. -/
theorem startGroup (h : Aside i r r') {o : Nat} {roles : List Role} :
    Aside i r (r'.startGroup o roles).1 := by
  refine h.trans ((⟨by simp, fun k hk => by rw [task_startGroup_of_lt r' o roles hk],
    fun k hk _ => by rw [task_startGroup_of_lt r' o roles hk], fun k => .inl ?_,
    fun g => ?_, fun k hk => by rw [task_startGroup_of_lt r' o roles hk]; exact .refl _,
    by simp, fun k g hk hcb => ?_⟩ : Aside none r' _).mono i)
  · by_cases hk : k < r'.tasks.size
    · rw [task_startGroup_of_lt r' o roles hk]
    · rw [task_startGroup_of_le r' o roles (by omega), task_of_size_le r' (by omega)]
      cases roles[k - r'.tasks.size]? <;> rfl
  · rw [group_startGroup]
    split
    · rfl
    · rw [group_of_size_le r' (by omega)]
      split <;> rfl
  · rw [task_startGroup_of_le r' o roles hk] at hcb
    cases hx : roles[k - r'.tasks.size]? with
    | none => rw [hx] at hcb; cases hcb
    | some role =>
      rw [hx] at hcb
      obtain rfl := Callback.childDone.inj (List.cons.inj hcb).1
      exact le_rfl

/-- **Only `finish` ends a task**, and a step finishes its own task only. -/
theorem finish (h : Aside (some j) r r') {e : Ending} (hend : (r'.task j).ending = none) :
    Aside (some j) r (r'.finish j e) := by
  refine h.trans ⟨by simp, fun k _ => ?_, fun k _ hk => ?_, fun k => ?_, fun g => by simp [Run.group],
    fun k _ => ?_, by simp, fun k g hk hcb => ?_⟩
  · rw [task_finish]
    split <;> rfl
  · rw [task_finish]
    split <;> rfl
  · rw [task_finish]
    split
    · next hk => exact .inr ⟨by rw [hk.1], hk.1 ▸ hend⟩
    · exact .inl rfl
  · rw [task_finish]
    split <;> exact .refl _
  · rw [task_finish, if_neg fun hc => absurd hc.2 (by omega)] at hcb
    exact absurd hcb (not_member_of_size_le hk)

end Aside

/-! ## The steps -/

section Steps

variable {j : Nat}

/-- The task `j` has not ended in `r'`, as it had not in `r`, when nothing ended it. -/
theorem Aside.unended (h : Aside none r r') (hend : (r.task j).ending = none) :
    (r'.task j).ending = none := by
  rw [h.ending_eq]
  exact hend

/-- A failed loader logs a load error, then ends. -/
theorem Aside.loadFailed (h : Aside (some j) r r') (f : LoadFailure)
    (hend : (r'.task j).ending = none) : Aside (some j) r (r'.loadFailed j f) := by
  unfold Run.loadFailed
  split
  · exact h.note.finish hend
  · exact h.finish hend

theorem Aside.publish (h : Aside (some j) r r') (hend : (r'.task j).ending = none) :
    Aside (some j) r (r'.publish j) := by
  unfold Run.publish
  split
  · dsimp only
    split
    · exact h.note.finish hend
    · exact h.setCache.note.finish hend
  · exact h.finish hend

theorem Aside.groupEnd (h : Aside (some j) r r') (g : Nat) (hend : (r'.task j).ending = none) :
    Aside (some j) r (r'.groupEnd j g) := by
  unfold Run.groupEnd
  dsimp only
  split
  · exact h.finish hend
  · split
    · split
      · split
        · exact h.loadFailed _ hend
        · exact h.finish hend
      · exact h.finish hend
    · split
      · exact h.publish hend
      · exact h.finish hend

theorem Aside.exitCancel (h : Aside i r r') (g : Nat) (thrown : Bool) :
    Aside i r (r'.exitCancel g thrown) := by
  unfold Run.exitCancel
  split
  · exact (h.setGroup (by intro; rfl)).abort
  · exact h

/-- **An owner's check of its group** waits again, or ends the owner. -/
theorem Aside.groupExit (h : Aside (some j) r r') (g : Nat) (thrown : Bool)
    (hend : (r'.task j).ending = none) : Aside (some j) r (r'.groupExit j g thrown) := by
  rw [groupExit_eq]
  have h₁ : Aside none r' ((r'.exitCancel g thrown).setGroup g fun x => { x with fut := none }) :=
    ((Aside.refl none r').exitCancel g thrown).setGroup (by intro; rfl)
  rw [groupResume_eq]
  split
  · exact ((h.trans (h₁.mono _)).newFut.setGroup (by intro; rfl)).setTask (by intro; rfl)
      (by intro; rfl) (by intro; exact .refl _) (.inl rfl)
  · exact (h.trans (h₁.mono _)).groupEnd g (h₁.unended hend)

/-- A question yields, putting the task back at the end of the queue with its answer, or
goes on with the answer at once. -/
theorem Aside.fetchNames (h : Aside (some j) r r') (src : String) (d : Option Value)
    {go : Run → Except FetchError (List Value) → Run}
    (hgo : ∀ r₁ o, Aside (some j) r r₁ → r₁.tasks = r'.tasks → Aside (some j) r (go r₁ o)) :
    Aside (some j) r (r'.fetchNames j src d go) := by
  have hask : Aside (some j) r (r'.ask src (·.askNames d) []).1 := h.ask
  have htasks : (r'.ask src (·.askNames d) []).1.tasks = r'.tasks := by simp
  unfold Run.fetchNames
  generalize r'.ask src (·.askNames d) [] = a at hask htasks
  obtain ⟨r₁, reply⟩ := a
  dsimp only at hask htasks ⊢
  split
  · exact (hask.setTask (by intro; rfl) (by intro; rfl) (by intro; exact .refl _) (.inl rfl)).enqueue
  · exact hgo r₁ _ hask htasks

theorem Aside.fetchColumns (h : Aside (some j) r r') (src : String) (d t : Value)
    {go : Run → Except FetchError (List ColumnEntry) → Run}
    (hgo : ∀ r₁ o, Aside (some j) r r₁ → r₁.tasks = r'.tasks → Aside (some j) r (go r₁ o)) :
    Aside (some j) r (r'.fetchColumns j src d t go) := by
  have hask : Aside (some j) r (r'.ask src (·.askColumns d t) []).1 := h.ask
  have htasks : (r'.ask src (·.askColumns d t) []).1.tasks = r'.tasks := by simp
  unfold Run.fetchColumns
  generalize r'.ask src (·.askColumns d t) [] = a at hask htasks
  obtain ⟨r₁, reply⟩ := a
  dsimp only at hask htasks ⊢
  split
  · exact (hask.setTask (by intro; rfl) (by intro; rfl) (by intro; exact .refl _) (.inl rfl)).enqueue
  · exact hgo r₁ _ hask htasks

theorem Aside.loaderDatabases (h : Aside (some j) r r') (o : Except FetchError (List Value))
    (hend : (r'.task j).ending = none) : Aside (some j) r (r'.loaderDatabases j o) := by
  unfold Run.loaderDatabases
  split
  · exact h.loadFailed _ hend
  · next dbs =>
    dsimp only
    have h₁ : Aside none r' ((r'.setStore j fun _ => { databases := dbs }).startGroup j
        (dbs.map (Role.database j))).1 := (Aside.refl none r').setStore.startGroup
    exact (h.trans (h₁.mono _)).groupExit _ false (h₁.unended hend)

theorem Aside.databaseTables (h : Aside (some j) r r') (l : Nat) (d : Value)
    (o : Except FetchError (List Value)) (hend : (r'.task j).ending = none) :
    Aside (some j) r (r'.databaseTables j l d o) := by
  unfold Run.databaseTables
  split
  · exact h.finish hend
  · split
    · exact h.finish hend
    · next ts _ _ =>
      dsimp only
      split
      · exact h.setStore.finish hend
      · have h₁ : Aside none r' ((r'.setStore l fun s => { s with tables := KeyMap.put s.tables d ts }).startGroup
            j (ts.map (Role.columns l d))).1 := (Aside.refl none r').setStore.startGroup
        exact (h.trans (h₁.mono _)).groupExit _ false (h₁.unended hend)

theorem Aside.columnsFetched (h : Aside (some j) r r') (l : Nat) (d t : Value)
    (o : Except FetchError (List ColumnEntry)) (hend : (r'.task j).ending = none) :
    Aside (some j) r (r'.columnsFetched j l d t o) := by
  unfold Run.columnsFetched
  split
  · exact h.finish hend
  · split
    · exact h.finish hend
    · exact h.setStore.finish hend

/-- A caller waits for a load, adding a relay to the load's callbacks, or takes the ending
of a load that has ended. -/
theorem Aside.shield (h : Aside (some j) r r') (l : Nat) (hend : (r'.task j).ending = none) :
    Aside (some j) r (r'.shield j l) := by
  unfold Run.shield
  split
  · exact h.finish hend
  · exact (h.newFut.setTask (by intro; rfl) (by intro; rfl) (by intro; exact ⟨[_], rfl, by simp⟩)
      (.inr (by intro; rfl))).setTask
      (by intro; rfl) (by intro; rfl) (by intro; exact .refl _) (.inl rfl)

theorem Aside.callerStart (h : Aside (some j) r r') (n src : String) (refresh : Bool)
    (hend : (r'.task j).ending = none) : Aside (some j) r (r'.callerStart j n src refresh) := by
  have h₀ : Aside none r' (if refresh then r'.setCache (·.clear n) else r') := by
    split
    · exact (Aside.refl none r').setCache
    · exact Aside.refl none r'
  unfold Run.callerStart
  generalize (if refresh then r'.setCache (·.clear n) else r') = r₁ at h₀
  have hend₁ := h₀.unended hend
  have h' := h.trans (h₀.mono _)
  dsimp only
  split
  · exact h'.note.shield _ hend₁
  · have h₁ : Aside none r₁ ((r₁.spawn (.loader n src (r₁.world.cache.generation n))
        [.forget n]).1.setCache fun c => { c with inflight := setEntry c.inflight n r₁.tasks.size }) :=
      ((Aside.refl none r₁).spawn (by simp)).setCache
    exact (h'.trans (h₁.mono _)).shield _ (h₁.unended hend₁)

theorem Aside.clientAwait (h : Aside (some j) r r') (cs : List Nat)
    (hend : (r'.task j).ending = none) : Aside (some j) r (r'.clientAwait j cs) := by
  induction cs generalizing r' with
  | nil => exact h.finish hend
  | cons c cs ih =>
    unfold Run.clientAwait
    split
    · exact ih h hend
    · exact (h.setTask (by intro; rfl) (by intro; rfl) (by intro; exact ⟨[_], rfl, by simp⟩)
        (.inr (by intro; rfl))).setTask (by intro; rfl) (by intro; rfl) (by intro; exact .refl _)
        (.inl rfl)

theorem Aside.issueCaller (h : Aside (some j) r r') (role : Role) (rest : List Plan) :
    Aside (some j) r (r'.issueCaller j role rest) := by
  have h₁ : Aside (some j) r (r'.spawn role [] .start).1 := h.spawn (by simp)
  unfold Run.issueCaller
  generalize r'.spawn role [] .start = s at h₁
  obtain ⟨r₁, c⟩ := s
  dsimp only at h₁ ⊢
  have h₂ : Aside (some j) r { r₁ with issued := r₁.issued ++ [some c] } :=
    h₁.trans ((Aside.of_tasks rfl rfl : Aside none r₁ { r₁ with issued := r₁.issued ++ [some c] }).mono _)
  exact (h₂.setTask (by intro; rfl) (by intro; rfl) (by intro; exact .refl _) (.inl rfl)).enqueue

theorem Aside.clientIssue (h : Aside (some j) r r') (rest : List Plan)
    (hend : (r'.task j).ending = none) : Aside (some j) r (r'.clientIssue j rest) := by
  induction rest generalizing r' with
  | nil => exact h.clientAwait _ hend
  | cons p rest ih =>
    cases p with
    | clear n =>
      rw [Run.clientIssue]
      exact ih (h.trans ((Aside.of_tasks rfl rfl : Aside none r'
        { r'.setCache (·.clear n) with issued := r'.issued ++ [none] }).mono _)) hend
    | cancel k =>
      rw [Run.clientIssue]
      exact ih (h.cancelIssued.trans ((Aside.of_tasks rfl rfl : Aside none (r'.cancelIssued k)
        { r'.cancelIssued k with issued := r'.issued ++ [none] }).mono _))
        (by rw [← hend]; exact (Task.standing_eq (standing_cancelIssued r' k)).2.2.1)
    | load n src => exact h.issueCaller _ rest
    | refresh n src => exact h.issueCaller _ rest

/-- What a step does once it has found its task unended, by the task's role and phase. -/
theorem Aside.resume (h : Aside (some j) r r') (thrown : Bool) (ρ : Role) (ph : Phase)
    (hend : (r'.task j).ending = none) : Aside (some j) r (r'.resume j thrown ρ ph) := by
  -- a question goes on from a run whose tasks are those of the run that asked
  have hnames : ∀ {r₀ : Run} {src : String} {d : Option Value}
      {go : Run → Except FetchError (List Value) → Run}, Aside (some j) r r₀ →
      (r₀.task j).ending = none →
      (∀ r₁ o, Aside (some j) r r₁ → (r₁.task j).ending = none → Aside (some j) r (go r₁ o)) →
      Aside (some j) r (r₀.fetchNames j src d go) := fun h₀ hend₀ hgo =>
    h₀.fetchNames _ _ fun r₁ o h₁ ht => hgo r₁ o h₁ (by simp only [Run.task, ht]; exact hend₀)
  cases ph with
  | grouped g =>
    cases ρ <;> exact h.groupExit g thrown hend
  | issuing rest =>
    cases ρ with
    | client => exact h.clientIssue rest hend
    | _ => exact h
  | awaiting cs =>
    cases ρ with
    | client => exact h.clientAwait cs hend
    | _ => exact h
  | shielded f =>
    cases ρ with
    | caller n src refresh =>
      simp only [Run.resume]
      split
      · exact h.finish hend
      · exact h.finish hend
      · exact h
    | _ => exact h
  | start =>
    cases ρ with
    | client => exact h
    | caller n src refresh =>
      simp only [Run.resume]
      split
      · exact h.finish hend
      · exact h.callerStart n src refresh hend
    | loader n src g =>
      simp only [Run.resume]
      split
      · exact h.finish hend
      · exact hnames h.note hend fun r₁ o h₁ hend₁ => h₁.loaderDatabases o hend₁
    | database l d =>
      simp only [Run.resume]
      split
      · exact h.finish hend
      · exact hnames h hend fun r₁ o h₁ hend₁ => h₁.databaseTables l d o hend₁
    | columns l d t =>
      simp only [Run.resume]
      split
      · exact h.finish hend
      · exact h.fetchColumns _ d t fun r₁ o h₁ ht =>
          h₁.columnsFetched l d t o (by simp only [Run.task, ht]; exact hend)
  | gotNames o =>
    cases ρ with
    | loader n src g =>
      simp only [Run.resume]
      split
      · exact h.finish hend
      · exact h.loaderDatabases o hend
    | database l d =>
      simp only [Run.resume]
      split
      · exact h.finish hend
      · exact h.databaseTables l d o hend
    | _ => exact h
  | gotColumns o =>
    cases ρ with
    | columns l d t =>
      simp only [Run.resume]
      split
      · exact h.finish hend
      · exact h.columnsFetched l d t o hend
    | _ => exact h

/-- **A step ends only its own task**, and only if it had not ended. -/
theorem aside_stepTask (r : Run) (j : Nat) (thrown : Bool) :
    Aside (some j) r (r.stepTask j thrown) := by
  rw [stepTask_eq]
  split
  · exact Aside.refl _ r
  · next hend =>
    have hend' : (r.task j).ending = none := by simpa using hend
    have h₁ : Aside (some j) r (r.setTask j fun t => { t with mustCancel := false, waitsOn := none }) :=
      (Aside.refl _ r).setTask (by intro; rfl) (by intro; rfl) (by intro; exact .refl _) (.inl rfl)
    refine h₁.resume _ _ _ ?_
    rw [task_setTask]
    split <;> exact hend'

end Steps

/-! ## Noting a member's end -/

section Notes

variable (r) {g c : Nat}

/-- The failure a member's ending gives its group to record. -/
def endingFailures : Option Ending → List Failure
  | some (.failed fl) => [fl]
  | _ => []

theorem aside_noteLive : Aside none r (r.noteLive g c) := by
  rcases noteLive_cases r (g := g) (c := c) with h | ⟨f, h⟩ <;> rw [h]
  · exact (Aside.refl none r).setGroup (by intro; rfl)
  · exact ((Aside.refl none r).setGroup (by intro; rfl)).settle

/-- Noting a member's end changes no task's role, phase or ending. -/
theorem standing_childDone (j : Nat) : ((r.childDone g c).task j).standing = (r.task j).standing := by
  rw [childDone_eq]
  generalize ((r.setGroup g fun x => { x with live := x.live.erase c }).group g) = grp
  have hlive : ((r.noteLive g c).task j).standing = (r.task j).standing := by rw [task_noteLive]
  unfold noteFailure
  split
  · dsimp only
    split
    · rw [standing_cancelTask, task_setGroup, standing_abort, task_setGroup]
      exact hlive
    · rw [task_setGroup]
      exact hlive
  · exact hlive

theorem size_childDone : (r.childDone g c).tasks.size = r.tasks.size := by
  rw [childDone_eq]
  unfold noteFailure
  split
  · dsimp only
    split <;> simp
  · simp

/-- **Noting a member's end records its failure in the group, and nowhere else.** -/
theorem errors_childDone (hg : g < r.groups.size) (g' : Nat) :
    ((r.childDone g c).group g').errors =
      if g' = g then (r.group g).errors ++ endingFailures (r.task c).ending
      else (r.group g').errors := by
  have hlive : ∀ g'', ((r.noteLive g c).group g'').errors = (r.group g'').errors :=
    (aside_noteLive r).errors
  rw [childDone_eq]
  generalize ((r.setGroup g fun x => { x with live := x.live.erase c }).group g) = grp
  have hsize : g < (r.noteLive g c).groups.size := by simpa using hg
  unfold noteFailure
  rw [task_noteLive]
  split
  · next fl hfl =>
    dsimp only
    have hrec : (((r.noteLive g c).setGroup g fun x => { x with errors := x.errors ++ [fl] }).group g').errors =
        if g' = g then (r.group g).errors ++ [fl] else (r.group g').errors := by
      rw [group_setGroup]
      split
      · next h =>
        obtain ⟨rfl, -⟩ := h
        simp [hlive]
      · next h =>
        have hne : g' ≠ g := fun he => h ⟨he.symm, he ▸ hsize⟩
        rw [if_neg hne, hlive]
    rw [hfl]
    split
    · rw [(((Aside.refl none _).abort.setGroup (by intro; rfl)).cancelTask).errors, hrec]
      rfl
    · rw [hrec]
      rfl
  · next hnot =>
    rw [hlive]
    split
    · next h =>
      subst h
      cases hc : (r.task c).ending with
      | none => simp [endingFailures]
      | some e =>
        cases e with
        | failed fl => exact absurd hc (hnot fl)
        | _ => simp [endingFailures]
    · rfl

end Notes

/-! ## Every turn -/

/-- The task a turn steps, if any. -/
def Event.stepped : Event → Option Nat
  | .step i _ => some i
  | _ => none

/-- The step of a task that has ended does nothing. -/
theorem stepTask_of_ended {j : Nat} (h : (r.task j).ending.isSome) (thrown : Bool) :
    r.stepTask j thrown = r := by
  rw [stepTask_eq]
  exact if_pos h

/-- A turn that notes no member's end is made aside of the step it takes, if any. -/
theorem aside_handle {e : Event} (he : ∀ g c, e ≠ .childDone g c) :
    Aside (Event.stepped e) r (r.handle e) := by
  cases e with
  | step i th => exact aside_stepTask r i th
  | childDone g c => exact absurd rfl (he g c)
  | forget n l =>
    simp only [handle]
    split
    · exact (Aside.refl none r).setCache
    · exact Aside.refl none r
  | relay l f =>
    simp only [handle]
    split
    · exact (Aside.refl none r).settle
    · exact (Aside.refl none r).settle
    · exact Aside.refl none r

/-- **A turn ends only the task whose step it is, and only if it had not ended.** -/
theorem ending_handle (e : Event) (j : Nat) :
    ((r.handle e).task j).ending = (r.task j).ending ∨
      (some j = Event.stepped e ∧ (r.task j).ending = none) := by
  by_cases he : ∃ g c, e = .childDone g c
  · obtain ⟨g, c, rfl⟩ := he
    exact .inl (Task.standing_eq (standing_childDone r j)).2.2.1
  · exact (aside_handle fun g c h => he ⟨g, c, h⟩).ending j

/-- **A turn keeps the role of every task, and the phase of every task it does not step.** -/
theorem phase_handle (e : Event) {j : Nat} (hj : j < r.tasks.size) :
    ((r.handle e).task j).role = (r.task j).role ∧
      (some j ≠ Event.stepped e → ((r.handle e).task j).phase = (r.task j).phase) := by
  by_cases he : ∃ g c, e = .childDone g c
  · obtain ⟨g, c, rfl⟩ := he
    have h := Task.standing_eq (standing_childDone r (g := g) (c := c) j)
    exact ⟨h.1, fun _ => h.2.1⟩
  · have h := aside_handle (r := r) fun g c h => he ⟨g, c, h⟩
    exact ⟨h.role j hj, h.phase j hj⟩

/-- A turn that does not step task `j` keeps its ending and its phase. -/
theorem unmoved_handle (e : Event) {j : Nat} (hj : j < r.tasks.size)
    (hne : some j ≠ Event.stepped e) :
    ((r.handle e).task j).ending = (r.task j).ending ∧
      ((r.handle e).task j).phase = (r.task j).phase :=
  ⟨(ending_handle e j).resolve_right fun h' => hne h'.1, (phase_handle e hj).2 hne⟩

theorem size_handle (e : Event) : r.tasks.size ≤ (r.handle e).tasks.size := by
  by_cases he : ∃ g c, e = .childDone g c
  · obtain ⟨g, c, rfl⟩ := he
    exact (size_childDone r).ge
  · exact (aside_handle fun g c h => he ⟨g, c, h⟩).size

/-- **A turn adds callbacks to a task only by relays and wakes.** -/
theorem callbacks_handle (e : Event) {j : Nat} (hj : j < r.tasks.size) :
    Callback.Grows (r.task j).callbacks ((r.handle e).task j).callbacks := by
  by_cases he : ∃ g c, e = .childDone g c
  · obtain ⟨g, c, rfl⟩ := he
    simp only [handle]
    rw [(Task.standing_eq (standing_childDone r (g := g) (c := c) j)).2.2.2]
    exact .refl _
  · exact (aside_handle fun g c h => he ⟨g, c, h⟩).callbacks j hj

/-- **A task a turn starts is a member only of a group the turn starts.** -/
theorem fresh_handle (e : Event) {j g : Nat} (hj : r.tasks.size ≤ j)
    (hcb : ((r.handle e).task j).callbacks = [.childDone g]) : r.groups.size ≤ g := by
  by_cases he : ∃ g c, e = .childDone g c
  · obtain ⟨g', c, rfl⟩ := he
    simp only [handle] at hcb
    rw [(Task.standing_eq (standing_childDone r (g := g') (c := c) j)).2.2.2] at hcb
    exact absurd hcb (Aside.not_member_of_size_le hj)
  · exact (aside_handle fun g c h => he ⟨g, c, h⟩).fresh j g hj hcb

/-- **A turn records a failure only in the group whose note it is**, appending the failure
of the member it notes. -/
theorem errors_handle (e : Event) (hg : ∀ g c, e = .childDone g c → g < r.groups.size) (g : Nat) :
    ((r.handle e).group g).errors = (r.group g).errors ∨
      ∃ c, e = .childDone g c ∧
        ((r.handle e).group g).errors = (r.group g).errors ++ endingFailures (r.task c).ending := by
  by_cases he : ∃ g c, e = .childDone g c
  · obtain ⟨g', c, rfl⟩ := he
    simp only [handle]
    rw [errors_childDone r (hg g' c rfl)]
    split
    · next h =>
      subst h
      exact .inr ⟨c, rfl, rfl⟩
    · exact .inl rfl
  · exact .inl ((aside_handle fun g c h => he ⟨g, c, h⟩).errors g)

end Run

end SqlAssist.Schema
