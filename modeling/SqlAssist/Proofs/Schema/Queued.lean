import SqlAssist.Proofs.Schema.Updates

/-!
# What a turn queues

A turn only ever appends to the queue.  What it appends depends on what it handles.

A step queues at most the task's own next step (a question that yields), the first steps
of the tasks it starts (a new group), and what the task's callbacks queue when it ends.
An owner cancelled from outside while it checks its group also aborts the group, which
cancels the group's live members; an owner whose group is aborting already skips that.

The note of a member's end queues only steps of the group's owner and of the group's live
members: the owner wakes when the last member is noted, or is cancelled with the members
on the group's first failure.

`Run.Appends P r r'` says that `r'` has the queue of `r` with events appended, each of
which satisfies `P`.

## Main statements

* `Run.appends_stepTask`: what a step queues (`Run.StepAppended`, and `Run.Cancelled`).
* `Run.appends_childDone`: what the note of a member's end queues.
-/

namespace SqlAssist.Schema

namespace Run

/-- `r'` has the queue of `r` with events appended, each of which satisfies `P`. -/
def Appends (P : Event → Prop) (r r' : Run) : Prop :=
  ∃ new, r'.queue = r.queue ++ new ∧ ∀ y ∈ new, P y

namespace Appends

variable {P Q : Event → Prop} {r r' r'' : Run}

theorem refl (P : Event → Prop) (r : Run) : Appends P r r := ⟨[], by simp, by simp⟩

theorem of_queue (h : r'.queue = r.queue) : Appends P r r' := ⟨[], by simp [h], by simp⟩

theorem trans (h₁ : Appends P r r') (h₂ : Appends P r' r'') : Appends P r r'' := by
  obtain ⟨x, hx, hPx⟩ := h₁
  obtain ⟨y, hy, hPy⟩ := h₂
  exact ⟨x ++ y, by rw [hy, hx, List.append_assoc],
    fun e he => (List.mem_append.1 he).elim (hPx e) (hPy e)⟩

theorem mono (h : Appends P r r') (hPQ : ∀ e, P e → Q e) : Appends Q r r' :=
  let ⟨x, hx, hPx⟩ := h
  ⟨x, hx, fun e he => hPQ e (hPx e he)⟩

theorem enqueue (h : Appends P r r') {e : Event} (he : P e) : Appends P r (r'.enqueue e) :=
  h.trans ⟨[e], rfl, fun y hy => by rw [List.mem_singleton.1 hy]; exact he⟩

end Appends

/-! ## Cancels

A cancel settles at most the outcome its task waits on, waking that outcome's waiters.
Between the cancels of a note, only groups and outcomes change, so every task waits on
what it waited on before the note, and every outcome still pending is as it was. -/

section Cancels

variable {r s s' : Run}

/-- `s` keeps what every task of `r` waits on, and every outcome pending in `s` is as it is
in `r`. -/
structure SameWaits (r s : Run) : Prop where
  waitsOn : ∀ m, (s.task m).waitsOn = (r.task m).waitsOn
  pending : ∀ f, (s.fut f).state = .pending → s.fut f = r.fut f

namespace SameWaits

theorem refl (r : Run) : SameWaits r r := ⟨fun _ => rfl, fun _ _ => rfl⟩

theorem setGroup (h : SameWaits r s) {g : Nat} {F : Group → Group} :
    SameWaits r (s.setGroup g F) :=
  ⟨fun m => h.waitsOn m, fun f hf => h.pending f hf⟩

theorem of_cancels (h : SameWaits r s) {L : List Nat} (hc : Cancels s s' L) : SameWaits r s' := by
  refine ⟨fun m => ?_, fun f hf => ?_⟩
  · rcases hc.task m with ht | ⟨-, ht⟩ <;> rw [ht] <;> exact h.waitsOn m
  · rcases hc.fut f with hfut | ⟨-, -, hfut⟩
    · rw [hfut] at hf ⊢
      exact h.pending f hf
    · rw [hfut] at hf
      cases hf

/-- Resolving an outcome leaves no outcome pending that was not. -/
theorem settle_resolved (h : SameWaits r s) {f : Nat} (e : Ending) :
    SameWaits r (s.settle f (.resolved e)) := by
  refine ⟨fun m => by rw [task_settle]; exact h.waitsOn m, fun f' hf' => ?_⟩
  -- an outcome still pending is one the resolve left alone
  have hkept := fut_settle_of_pending s (by simp) hf'
  rw [hkept] at hf' ⊢
  exact h.pending f' hf'

end SameWaits

/-- The steps a cancel of the tasks of `L` in `r` may queue: the waiters of an outcome
pending in `r` that a task of `L` waits on, resumed cancelled. -/
def Cancelled (r : Run) (L : List Nat) (y : Event) : Prop :=
  ∃ m ∈ L, ∃ f, (r.task m).waitsOn = some f ∧ (r.fut f).state = .pending ∧
    ∃ w ∈ (r.fut f).waiters, y = .step w true

theorem appends_cancelTask (h : SameWaits r s) (m : Nat) :
    Appends (Cancelled r [m]) s (s.cancelTask m) := by
  unfold cancelTask
  dsimp only
  split
  · exact .refl _ s
  · split
    · next f hw =>
      split
      · next hp =>
        have hpend := (isPending_iff s).1 hp
        rw [settle_cancelled s hpend]
        refine ⟨_, rfl, fun y hy => ?_⟩
        obtain ⟨w, hw', rfl⟩ := List.mem_map.1 hy
        have hsame := h.pending f hpend
        rw [hsame] at hpend hw'
        exact ⟨m, List.mem_singleton_self m, f, (h.waitsOn m) ▸ hw, hpend, w, hw', rfl⟩
      · exact .of_queue rfl
    · exact .of_queue rfl

theorem appends_foldl_cancelTask (L : List Nat) (h : SameWaits r s) :
    Appends (Cancelled r L) s (L.foldl (fun r t => r.cancelTask t) s) := by
  induction L generalizing s with
  | nil => exact .refl _ s
  | cons m L ih =>
    rw [List.foldl_cons]
    refine ((appends_cancelTask h m).mono fun y hy => hy.imp fun m' hmy => ⟨?_, hmy.2⟩).trans
      ((ih (h.of_cancels (cancels_cancelTask s m))).mono fun y hy =>
        hy.imp fun m' hmy => ⟨.tail _ hmy.1, hmy.2⟩)
    rw [List.mem_singleton.1 hmy.1]
    exact List.mem_cons_self

/-- Aborting a group cancels its live members. -/
theorem appends_abort (h : SameWaits r s) (g : Nat) :
    Appends (Cancelled r (s.group g).live) s (s.abort g) := by
  have hlive : ((s.setGroup g fun x => { x with aborting := true }).group g).live =
      (s.group g).live := by
    rw [group_setGroup]
    split <;> rfl
  unfold abort
  dsimp only
  rw [hlive]
  exact (Appends.of_queue rfl).trans (appends_foldl_cancelTask _ h.setGroup)

end Cancels

/-! ## Steps -/

section Steps

variable {r₀ r r' : Run} {i : Nat}

/-- What a step of task `i` from `r₀` queues before it ends: the task's own next step, and
the first steps of tasks it starts. -/
def SelfQueued (r₀ : Run) (i : Nat) (y : Event) : Prop :=
  y = .step i false ∨ ∃ w, r₀.tasks.size ≤ w ∧ y = .step w false

/-- **What a step of task `i` from `r₀` that cancels nothing queues**, `r'` being the run
after it: the task's own next step, the first steps of the tasks it starts, and what the
callbacks of the task queue as it ends. -/
def StepAppended (r₀ r' : Run) (i : Nat) (y : Event) : Prop :=
  SelfQueued r₀ i y ∨ ∃ cb ∈ (r'.task i).callbacks, y = cb.event i

theorem StepAppended.of_self {y : Event} (h : SelfQueued r₀ i y) : StepAppended r₀ r' i y := .inl h

/-- A step that goes on without ending queues what it queued so far. -/
theorem Appends.step (h : Appends (SelfQueued r₀ i) r₀ r) : Appends (StepAppended r₀ r i) r₀ r :=
  h.mono fun _ hy => .of_self hy

/-- A task that ends queues what its callbacks queue. -/
theorem Appends.finish (h : Appends (SelfQueued r₀ i) r₀ r) (e : Ending) :
    Appends (StepAppended r₀ (r.finish i e) i) r₀ (r.finish i e) := by
  have hcb : ((r.finish i e).task i).callbacks = (r.task i).callbacks := by
    rw [task_finish]
    split <;> rfl
  refine (h.mono fun _ hy => .of_self hy).trans ⟨_, finish_queue r e, fun y hy => ?_⟩
  obtain ⟨cb, hcb', rfl⟩ := List.mem_map.1 hy
  exact .inr ⟨cb, hcb ▸ hcb', rfl⟩

/-- The new group's members are new tasks. -/
theorem Appends.startGroup (h : Appends (SelfQueued r₀ i) r₀ r) (hs : r₀.tasks.size ≤ r.tasks.size)
    (o : Nat) (roles : List Role) : Appends (SelfQueued r₀ i) r₀ (r.startGroup o roles).1 := by
  refine h.trans ⟨_, startGroup_queue r o roles, fun y hy => ?_⟩
  obtain ⟨w, hw, rfl⟩ := List.mem_map.1 hy
  exact .inr ⟨w, Nat.le_trans hs (List.mem_range'_1.1 hw).1, rfl⟩

theorem Appends.loadFailed (h : Appends (SelfQueued r₀ i) r₀ r) (f : LoadFailure) :
    Appends (StepAppended r₀ (r.loadFailed i f) i) r₀ (r.loadFailed i f) := by
  unfold Run.loadFailed
  split
  · exact (h.trans (.of_queue (by simp))).finish _
  · exact h.finish _

theorem Appends.publish (h : Appends (SelfQueued r₀ i) r₀ r) :
    Appends (StepAppended r₀ (r.publish i) i) r₀ (r.publish i) := by
  unfold Run.publish
  split
  · dsimp only
    split
    · exact (h.trans (.of_queue (by simp))).finish _
    · exact (h.trans (.of_queue (by simp))).finish _
  · exact h.finish _

theorem Appends.groupEnd (h : Appends (SelfQueued r₀ i) r₀ r) (g : Nat) :
    Appends (StepAppended r₀ (r.groupEnd i g) i) r₀ (r.groupEnd i g) := by
  unfold Run.groupEnd
  dsimp only
  split
  · exact h.finish _
  · split
    · split
      · split
        · exact h.loadFailed _
        · exact h.finish _
      · exact h.finish _
    · split
      · exact h.publish
      · exact h.finish _

/-- An owner that decides on its group waits again, which queues nothing, or ends. -/
theorem Appends.groupResume (h : Appends (SelfQueued r₀ i) r₀ r) (g : Nat) :
    Appends (StepAppended r₀ (r.groupResume i g) i) r₀ (r.groupResume i g) := by
  rw [groupResume_eq]
  split
  · exact (h.trans (.of_queue (by simp))).step
  · exact h.groupEnd g

/-- **An owner that checks its group cancels nothing** when it was not cancelled, or was
cancelled by its group's abort. -/
theorem Appends.groupExit (h : Appends (SelfQueued r₀ i) r₀ r) (g : Nat) {thrown : Bool}
    (hcalm : thrown = true → (r.group g).aborting = true) :
    Appends (StepAppended r₀ (r.groupExit i g thrown) i) r₀ (r.groupExit i g thrown) := by
  have hexit : r.exitCancel g thrown = r := by
    unfold exitCancel
    cases thrown
    · rfl
    · rw [hcalm rfl]
      rfl
  rw [groupExit_eq, hexit]
  exact (h.trans (.of_queue (by simp))).groupResume g

/-- **An owner cancelled from outside while it checks its group aborts the group**: besides
what a step queues, it queues the cancels of the group's live members. -/
theorem Appends.groupExit_cancels (h : Appends (SelfQueued r₀ i) r₀ r)
    (hs : r₀.tasks.size ≤ r.tasks.size) (g : Nat) (thrown : Bool) :
    Appends (fun y => StepAppended r₀ (r.groupExit i g thrown) i y ∨
      Cancelled r (r.group g).live y) r₀ (r.groupExit i g thrown) := by
  -- the abort, if any, cancels the live members; the owner then decides as any step does
  have hexit : Appends (fun y => SelfQueued r₀ i y ∨ Cancelled r (r.group g).live y) r₀
      (r.exitCancel g thrown) := by
    refine (h.mono fun _ hy => .inl hy).trans ?_
    unfold exitCancel
    split
    · have hlive : ((r.setGroup g fun x => { x with outsideCancel := true }).group g).live =
          (r.group g).live := by
        rw [group_setGroup]
        split <;> rfl
      have habort := appends_abort ((SameWaits.refl r).setGroup (g := g)
        (F := fun x => { x with outsideCancel := true })) g
      rw [hlive] at habort
      exact (Appends.of_queue (by simp)).trans (habort.mono fun _ hy => .inr hy)
    · exact .refl _ r
  have hsize : r₀.tasks.size ≤
      ((r.exitCancel g thrown).setGroup g fun x => { x with fut := none }).tasks.size := by
    unfold exitCancel
    split <;> simpa using hs
  rw [groupExit_eq]
  refine ((hexit.trans (.of_queue (by simp))).mono fun y hy => hy.imp_left StepAppended.of_self).trans
    (((Appends.refl _ _).groupResume g).mono fun y hy => .inl ?_)
  rcases hy with (rfl | ⟨w, hw, rfl⟩) | hcb
  · exact .inl (.inl rfl)
  · exact .inl (.inr ⟨w, Nat.le_trans hsize hw, rfl⟩)
  · exact .inr hcb

/-- A question that yields queues the task's next step; one answered at once goes on. -/
theorem Appends.fetchNames (h : Appends (SelfQueued r₀ i) r₀ r) (src : String)
    (d : Option Value) {go : Run → Except FetchError (List Value) → Run}
    (hgo : ∀ r₁ o, Appends (SelfQueued r₀ i) r₀ r₁ → r₁.tasks = r.tasks →
      Appends (StepAppended r₀ (go r₁ o) i) r₀ (go r₁ o)) :
    Appends (StepAppended r₀ (r.fetchNames i src d go) i) r₀ (r.fetchNames i src d go) := by
  have hask : Appends (SelfQueued r₀ i) r₀ (r.ask src (·.askNames d) []).1 :=
    h.trans (.of_queue (by simp))
  have htasks : (r.ask src (·.askNames d) []).1.tasks = r.tasks := by simp
  unfold Run.fetchNames
  generalize r.ask src (·.askNames d) [] = a at hask htasks
  obtain ⟨r₁, reply⟩ := a
  dsimp only at hask htasks ⊢
  split
  · exact ((hask.trans (.of_queue (by simp))).enqueue (.inl rfl)).step
  · exact hgo r₁ _ hask htasks

theorem Appends.fetchColumns (h : Appends (SelfQueued r₀ i) r₀ r) (src : String) (d t : Value)
    {go : Run → Except FetchError (List ColumnEntry) → Run}
    (hgo : ∀ r₁ o, Appends (SelfQueued r₀ i) r₀ r₁ → r₁.tasks = r.tasks →
      Appends (StepAppended r₀ (go r₁ o) i) r₀ (go r₁ o)) :
    Appends (StepAppended r₀ (r.fetchColumns i src d t go) i) r₀ (r.fetchColumns i src d t go) := by
  have hask : Appends (SelfQueued r₀ i) r₀ (r.ask src (·.askColumns d t) []).1 :=
    h.trans (.of_queue (by simp))
  have htasks : (r.ask src (·.askColumns d t) []).1.tasks = r.tasks := by simp
  unfold Run.fetchColumns
  generalize r.ask src (·.askColumns d t) [] = a at hask htasks
  obtain ⟨r₁, reply⟩ := a
  dsimp only at hask htasks ⊢
  split
  · exact ((hask.trans (.of_queue (by simp))).enqueue (.inl rfl)).step
  · exact hgo r₁ _ hask htasks

/-- A group a step starts has live members: the owner's check of it waits. -/
theorem Appends.startExit (h : Appends (SelfQueued r₀ i) r₀ r) (hs : r₀.tasks.size ≤ r.tasks.size)
    (roles : List Role) :
    Appends (StepAppended r₀ ((r.startGroup i roles).1.groupExit i (r.startGroup i roles).2 false) i)
      r₀ ((r.startGroup i roles).1.groupExit i (r.startGroup i roles).2 false) :=
  (h.startGroup hs i roles).groupExit _ fun h => by cases h

theorem Appends.loaderDatabases (h : Appends (SelfQueued r₀ i) r₀ r)
    (hs : r₀.tasks.size ≤ r.tasks.size) (o : Except FetchError (List Value)) :
    Appends (StepAppended r₀ (r.loaderDatabases i o) i) r₀ (r.loaderDatabases i o) := by
  unfold Run.loaderDatabases
  split
  · exact h.loadFailed _
  · exact (h.trans (.of_queue (by simp))).startExit (by simpa using hs) _

theorem Appends.databaseTables (h : Appends (SelfQueued r₀ i) r₀ r)
    (hs : r₀.tasks.size ≤ r.tasks.size) (l : Nat) (d : Value) (o : Except FetchError (List Value)) :
    Appends (StepAppended r₀ (r.databaseTables i l d o) i) r₀ (r.databaseTables i l d o) := by
  unfold Run.databaseTables
  split
  · exact h.finish _
  · split
    · exact h.finish _
    · next ts _ _ =>
      dsimp only
      have h₁ : Appends (SelfQueued r₀ i) r₀
          (r.setStore l fun s => { s with tables := KeyMap.put s.tables d ts }) :=
        h.trans (.of_queue (by simp))
      split
      · exact h₁.finish _
      · exact h₁.startExit (by simpa using hs) _

theorem Appends.columnsFetched (h : Appends (SelfQueued r₀ i) r₀ r) (l : Nat) (d t : Value)
    (o : Except FetchError (List ColumnEntry)) :
    Appends (StepAppended r₀ (r.columnsFetched i l d t o) i) r₀ (r.columnsFetched i l d t o) := by
  unfold Run.columnsFetched
  split
  · exact h.finish _
  · split
    · exact h.finish _
    · exact (h.trans (.of_queue (by simp))).finish _

/-- What a task under the caller queues as it resumes, by its role and phase, when its
check of a group, if it makes one, cancels nothing. -/
theorem Appends.resume (h : Appends (SelfQueued r₀ i) r₀ r) (hs : r₀.tasks.size ≤ r.tasks.size)
    (thrown : Bool) {ρ : Role} (ph : Phase) (hρ : ∀ n s rf, ρ ≠ .caller n s rf)
    (hρ' : ρ ≠ .client)
    (hcalm : ∀ g, ph = .grouped g → thrown = true → (r.group g).aborting = true) :
    Appends (StepAppended r₀ (r.resume i thrown ρ ph) i) r₀ (r.resume i thrown ρ ph) := by
  -- a question goes on from a run with the tasks of the run that asked
  have hgo : ∀ {r₁ : Run}, Appends (SelfQueued r₀ i) r₀ r₁ → r₁.tasks = r.tasks →
      r₀.tasks.size ≤ r₁.tasks.size := fun _ ht => by rw [ht]; exact hs
  cases ph with
  | grouped g => cases ρ <;> exact h.groupExit g (hcalm g rfl)
  | start =>
    cases ρ with
    | client => exact absurd rfl hρ'
    | caller n s rf => exact absurd rfl (hρ n s rf)
    | loader n src gen =>
      simp only [Run.resume]
      split
      · exact h.finish _
      · exact (h.trans (.of_queue (by simp))).fetchNames _ _ fun r₁ o h₁ ht =>
          h₁.loaderDatabases (hgo h₁ (by rw [ht]; simp)) o
    | database l d =>
      simp only [Run.resume]
      split
      · exact h.finish _
      · exact h.fetchNames _ _ fun r₁ o h₁ ht => h₁.databaseTables (hgo h₁ ht) l d o
    | columns l d t =>
      simp only [Run.resume]
      split
      · exact h.finish _
      · exact h.fetchColumns _ d t fun r₁ o h₁ _ => h₁.columnsFetched l d t o
  | gotNames o =>
    cases ρ with
    | loader n src gen =>
      simp only [Run.resume]
      split
      · exact h.finish _
      · exact h.loaderDatabases hs o
    | database l d =>
      simp only [Run.resume]
      split
      · exact h.finish _
      · exact h.databaseTables hs l d o
    | _ => exact h.step
  | gotColumns o =>
    cases ρ with
    | columns l d t =>
      simp only [Run.resume]
      split
      · exact h.finish _
      · exact h.columnsFetched l d t o
    | _ => exact h.step
  | issuing rest =>
    cases ρ with
    | client => exact absurd rfl hρ'
    | _ => exact h.step
  | awaiting cs =>
    cases ρ with
    | client => exact absurd rfl hρ'
    | _ => exact h.step
  | shielded f =>
    cases ρ with
    | caller n s rf => exact absurd rfl (hρ n s rf)
    | _ => exact h.step

/-- Clearing what a task waits on as it steps adds no cancel. -/
theorem Cancelled.of_clear {L : List Nat} {y : Event}
    (h : Cancelled (r.setTask i fun t => { t with mustCancel := false, waitsOn := none }) L y) :
    Cancelled r L y := by
  obtain ⟨m, hm, f, hw, hp, w, hw', rfl⟩ := h
  refine ⟨m, hm, f, ?_, hp, w, hw', rfl⟩
  rw [task_setTask] at hw
  split at hw
  · cases hw
  · exact hw

/-- A task that checks its group does so whatever its role. -/
theorem resume_grouped (r : Run) (i : Nat) (th : Bool) (ρ : Role) (g : Nat) :
    r.resume i th ρ (.grouped g) = r.groupExit i g th := by
  cases ρ <;> rfl

/-- **What a step queues**: the task's own next step, the first steps of the tasks it starts,
what its callbacks queue as it ends, and, when it was cancelled from outside while it
checks its group, the cancels of the group's live members.  A step of a caller or the
client is not of this kind. -/
theorem appends_stepTask (r : Run) (i : Nat) (th : Bool)
    (hρ : ∀ n s rf, (r.task i).role ≠ .caller n s rf) (hρ' : (r.task i).role ≠ .client) :
    Appends (fun y => StepAppended r (r.stepTask i th) i y ∨
      ∃ g, (r.task i).phase = .grouped g ∧ Cancelled r (r.group g).live y) r (r.stepTask i th) := by
  rw [stepTask_eq]
  split
  · exact (Appends.refl _ r).step.mono fun _ hy => .inl hy
  · have h₁ : Appends (SelfQueued r i) r
        (r.setTask i fun t => { t with mustCancel := false, waitsOn := none }) := .of_queue rfl
    by_cases hg : ∃ g, (r.task i).phase = .grouped g
    · -- a task that checks its group does so whatever its role
      obtain ⟨g, hg⟩ := hg
      have hexit : ∀ th' : Bool,
          (r.setTask i fun t => { t with mustCancel := false, waitsOn := none }).resume i th'
            (r.task i).role (r.task i).phase =
          (r.setTask i fun t => { t with mustCancel := false, waitsOn := none }).groupExit i g th' := by
        intro th'
        rw [hg]
        exact resume_grouped _ _ _ _ _
      rw [hexit]
      exact (h₁.groupExit_cancels (by simp) g _).mono fun y hy =>
        hy.imp_right fun hc => ⟨g, hg, hc.of_clear⟩
    · exact (h₁.resume (by simp) _ _ hρ hρ' fun g hg' _ => absurd ⟨g, hg'⟩ hg).mono
        fun _ hy => .inl hy

end Steps

/-! ## Notes -/

section Notes

variable {r : Run}

/-- What the note of a member's end queues, for a group `grp` of which `x` is the state
before the note. -/
def NoteQueued (r : Run) (x : Group) (y : Event) : Prop :=
  (∃ f, x.fut = some f ∧ (r.fut f).state = .pending ∧ ∃ w ∈ (r.fut f).waiters, y = .step w false) ∨
    Cancelled r (x.owner :: x.live) y

/-- **What the note of member `c`'s end in group `g` queues**: the waiters of the group's
pending outcome, woken when the last member is noted, and on the group's first failure the
waiters of what its live members and its owner wait on, resumed cancelled. -/
theorem appends_childDone (r : Run) (g c : Nat) :
    Appends (NoteQueued r (r.group g)) r (r.childDone g c) := by
  -- dropping the member keeps the group's owner and outcome, and leaves fewer members live
  have hdrop : ∀ F : Group → Group, (∀ x, (F x).owner = x.owner ∧ (F x).fut = x.fut ∧
      (F x).live ⊆ x.live) → ((r.setGroup g F).group g).owner = (r.group g).owner ∧
      ((r.setGroup g F).group g).fut = (r.group g).fut ∧
      ((r.setGroup g F).group g).live ⊆ (r.group g).live := fun F hF => by
    rw [group_setGroup]
    split
    · exact hF _
    · exact ⟨rfl, rfl, fun _ h => h⟩
  have herase := hdrop (fun x => { x with live := x.live.erase c })
    fun x => ⟨rfl, rfl, fun _ h => List.mem_of_mem_erase h⟩
  have hlive : Appends (NoteQueued r (r.group g)) r (r.noteLive g c) ∧
      SameWaits r (r.noteLive g c) := by
    unfold noteLive
    dsimp only
    split
    · next f hf =>
      split
      · refine ⟨?_, (SameWaits.refl r).setGroup.settle_resolved _⟩
        unfold Run.settle
        split
        · next hp =>
          rw [foldl_enqueue]
          refine ⟨_, rfl, fun y hy => ?_⟩
          obtain ⟨w, hw, rfl⟩ := List.mem_map.1 hy
          exact .inl ⟨f, herase.2.1 ▸ hf, hp, w, hw, rfl⟩
        · exact .of_queue rfl
      · exact ⟨.of_queue rfl, (SameWaits.refl r).setGroup⟩
    · exact ⟨.of_queue rfl, (SameWaits.refl r).setGroup⟩
  rw [childDone_eq]
  generalize hgrp : (r.setGroup g fun x => { x with live := x.live.erase c }).group g = grp
  rw [hgrp] at herase
  obtain ⟨hq, hw⟩ := hlive
  have hgroup : (r.noteLive g c).group g = grp := by
    rw [← hgrp]
    simp only [Run.group, noteLive_groups]
  generalize r.noteLive g c = r₂ at hq hw hgroup
  unfold noteFailure
  split
  · next fl _ =>
    dsimp only
    have h₃ : SameWaits r (r₂.setGroup g fun x => { x with errors := x.errors ++ [fl] }) :=
      hw.setGroup
    split
    · -- the first failure cancels the live members, then the owner
      have hsub : ((r₂.setGroup g fun x => { x with errors := x.errors ++ [fl] }).group g).live ⊆
          (r.group g).live := by
        rw [group_setGroup]
        split
        · rw [hgroup]
          exact herase.2.2
        · rw [hgroup]
          exact herase.2.2
      have h₄ : SameWaits r (((r₂.setGroup g fun x => { x with errors := x.errors ++ [fl] }).abort
          g).setGroup g fun x => { x with ownerCancelled := true }) :=
        (h₃.setGroup.of_cancels (cancels_abort _)).setGroup
      have hcancel : Appends (NoteQueued r (r.group g))
          ((r₂.setGroup g fun x => { x with errors := x.errors ++ [fl] }).abort g)
          ((((r₂.setGroup g fun x => { x with errors := x.errors ++ [fl] }).abort g).setGroup g
            fun x => { x with ownerCancelled := true }).cancelTask grp.owner) := by
        refine (Appends.of_queue rfl).trans
          ((appends_cancelTask h₄ grp.owner).mono fun y hy => .inr (hy.imp fun m hmy => ⟨?_, hmy.2⟩))
        rw [List.mem_singleton.1 hmy.1, herase.1]
        exact List.mem_cons_self
      exact ((hq.trans (.of_queue rfl)).trans ((appends_abort h₃ g).mono
        fun y hy => .inr (hy.imp fun m hmy => ⟨.tail _ (hsub hmy.1), hmy.2⟩))).trans hcancel
    · exact hq.trans (.of_queue rfl)
  · exact hq

end Notes

end Run

end SqlAssist.Schema
