import SqlAssist.Proofs.Schema.Coalescing

/-!
# A shared load outlives its callers

A caller waits on its load through a shield: it waits on an outcome of its own, which the
loader's end settles.  Cancelling the caller settles that outcome, never the loader's, so
the load goes on for the callers that joined it.  A loader is cancelled only by its own
group, on the first failure of a member, and then ends failed.  Hence no loader ever ends
cancelled, whichever callers a plan cancels (`Run.Shielded.loader_not_cancelled`).

## The invariant

A task is cancelled by a mark on its next step, or by a cancelled step in the queue, which
the cancel of an outcome it waits on puts there.  `Run.Shielded` follows where these can
come from:

* a loader carries a mark or has a cancelled step queued only while it checks its group
  and the group is aborting (`Run.ByOwnGroup`), so the loader's check does not count the
  cancel as coming from outside, and the group of a loader is never cancelled from
  outside;
* a relay settles an outcome that wakes no loader (`Run.WakesNoLoader`), and every
  outcome a task waits on wakes that task alone;
* the members of a group, and the callers a client issued, are no loaders;
* a task that checks a group owns it, and a loader that owns a group and has not ended
  checks it.

A loader's step starts its group and then checks it; in between, the loader owns a group
it does not check yet.  `Run.Guarded skip` is the invariant with that one group exempt, so
that it holds after every update of a step.

## Main statements

* `Run.Shielded.handle`: every turn keeps the invariant.
* `Run.Shielded.loader_not_cancelled`: along every run of a plan, no loader has ended
  cancelled.
-/

namespace SqlAssist.Schema

/-- Whether a role is a loader's. -/
def Role.isLoader : Role → Bool
  | .loader .. => true
  | _ => false

/-- What holds of a loader holds of a role that is none. -/
theorem Role.of_not_loader {ρ : Role} (hl : ρ.isLoader = false) {P : Prop} : ρ.isLoader = true → P :=
  fun h => absurd (hl.symm.trans h) Bool.false_ne_true

namespace Run

/-- Loader `l` checks a group that is aborting: the group cancels it on a member's failure. -/
def ByOwnGroup (r : Run) (l : Nat) : Prop :=
  ∃ g, (r.task l).phase = .grouped g ∧ (r.group g).aborting = true

/-- The outcome `f` wakes one task, which is no loader. -/
def WakesNoLoader (r : Run) (f : Nat) : Prop :=
  ∃ w, (r.fut f).waiters = [w] ∧ w < r.tasks.size ∧ (r.task w).role.isLoader = false

/-- A queued event cancels no loader but through its group: a cancelled step is of a task
that exists, and of a loader only one its group cancels; a relay settles an outcome that
wakes no loader. -/
def SafeEvent (r : Run) : Event → Prop
  | .step l true => l < r.tasks.size ∧
      ((r.task l).role.isLoader = true → (r.task l).ending = none → r.ByOwnGroup l)
  | .relay _ f => r.WakesNoLoader f
  | _ => True

/-- The invariant of the shield, with the group `skip` exempt from the check of its owner. -/
structure Guarded (skip : Option Nat) (r : Run) : Prop where
  client : 0 < r.tasks.size ∧ (r.task 0).role = .client
  ended : ∀ l, (r.task l).role.isLoader = true → (r.task l).ending ≠ some .cancelled
  marked : ∀ l, (r.task l).role.isLoader = true → (r.task l).ending = none →
    (r.task l).mustCancel = true → r.ByOwnGroup l
  queue : ∀ e ∈ r.queue, r.SafeEvent e
  inside : ∀ l g, (r.task l).role.isLoader = true → (r.task l).phase = .grouped g →
    (r.group g).outsideCancel = false
  owns : ∀ i g, (r.task i).phase = .grouped g → g < r.groups.size ∧ (r.group g).owner = i
  checks : ∀ g, (r.group g).owner < r.tasks.size ∧
    (some g ≠ skip → (r.task (r.group g).owner).role.isLoader = true →
      (r.task (r.group g).owner).ending = none → (r.task (r.group g).owner).phase = .grouped g)
  members : ∀ g, ∀ c ∈ (r.group g).live, c < r.tasks.size ∧ (r.task c).role.isLoader = false
  waits : ∀ m f, (r.task m).waitsOn = some f → (r.fut f).waiters = [m]
  issued : ∀ c ∈ r.issued.filterMap id, c < r.tasks.size ∧ (r.task c).role.isLoader = false
  relays : ∀ m f, Callback.relay f ∈ (r.task m).callbacks → r.WakesNoLoader f

/-- The invariant of the shield at a turn's end, no group exempt. -/
abbrev Shielded (r : Run) : Prop := Guarded none r

variable {r r' : Run} {skip : Option Nat}

/-! ## Views -/

theorem fut_eq_of_futs (h : r'.futs = r.futs) (f : Nat) : r'.fut f = r.fut f := by
  unfold fut
  rw [h]

/-- An outcome that wakes a task exists. -/
theorem lt_of_waiters_eq {f w : Nat} (h : (r.fut f).waiters = [w]) : f < r.futs.size := by
  by_contra hlt
  rw [fut_of_size_le r (Nat.le_of_not_lt hlt)] at h
  cases h

/-- A task that waits on something exists. -/
theorem lt_of_waitsOn {m f : Nat} (h : (r.task m).waitsOn = some f) : m < r.tasks.size := by
  by_contra hlt
  rw [task_of_size_le r (Nat.le_of_not_lt hlt)] at h
  cases h

/-- The waiters of an outcome are those of the outcomes before a settle. -/
theorem waiters_settle (f f' : Nat) (st : FutState) :
    ((r.settle f st).fut f').waiters = (r.fut f').waiters := by
  unfold settle
  split
  · rw [foldl_enqueue, fut_modify r (F := fun x => { x with state := st }) rfl]
    split <;> rfl
  · rfl

/-- The waiters of an outcome before a new one is made. -/
theorem waiters_newFut {f w v : Nat} (h : (r.fut f).waiters = [w]) :
    ((r.newFut v).1.fut f).waiters = [w] := by
  rw [fut_newFut, if_neg (Nat.ne_of_lt (lt_of_waiters_eq h))]
  exact h

/-! ## Updates that start nothing and move no task -/

/-- **What the invariant needs of an update that starts nothing and moves no task**: the
tasks keep all but their marks, and gain a mark only where a loader's group cancels it; the
groups keep their owners, gain no member, stay aborting once they are, and are cancelled
from outside only when no loader owns them; the outcomes that wake a task keep their
waiters; the issued callers stay; and the queue gains only safe events. -/
theorem Guarded.transfer (h : r.Guarded skip) (hsize : r'.tasks.size = r.tasks.size)
    (htask : ∀ j, r'.task j = { r.task j with mustCancel := (r'.task j).mustCancel })
    (hmark : ∀ j, (r'.task j).mustCancel = true → (r.task j).mustCancel = true ∨
      ((r.task j).role.isLoader = true → (r.task j).ending = none → r.ByOwnGroup j))
    (hgsize : r'.groups.size = r.groups.size)
    (hgroup : ∀ g, (r'.group g).owner = (r.group g).owner ∧
      (∀ c ∈ (r'.group g).live, c ∈ (r.group g).live) ∧
      ((r.group g).aborting = true → (r'.group g).aborting = true) ∧
      ((r'.group g).outsideCancel = true → (r.group g).outsideCancel = true ∨
        (r.task (r.group g).owner).role.isLoader = false))
    (hi : r'.issued = r.issued)
    (hf : ∀ f w, (r.fut f).waiters = [w] → (r'.fut f).waiters = [w])
    (hq : ∀ e ∈ r'.queue, e ∈ r.queue ∨ r.SafeEvent e) : r'.Guarded skip := by
  have hrole : ∀ j, (r'.task j).role = (r.task j).role := fun j => by rw [htask j]
  have hphase : ∀ j, (r'.task j).phase = (r.task j).phase := fun j => by rw [htask j]
  have hend : ∀ j, (r'.task j).ending = (r.task j).ending := fun j => by rw [htask j]
  have hwait : ∀ j, (r'.task j).waitsOn = (r.task j).waitsOn := fun j => by rw [htask j]
  have hcb : ∀ j, (r'.task j).callbacks = (r.task j).callbacks := fun j => by rw [htask j]
  have hwakes : ∀ f, r.WakesNoLoader f → r'.WakesNoLoader f := fun f ⟨w, hw, hlt, hl⟩ =>
    ⟨w, hf f w hw, by rw [hsize]; exact hlt, by rw [hrole]; exact hl⟩
  have hby : ∀ l, r.ByOwnGroup l → r'.ByOwnGroup l := fun l ⟨g, hp, ha⟩ =>
    ⟨g, by rw [hphase, hp], (hgroup g).2.2.1 ha⟩
  have hsafe : ∀ e, r.SafeEvent e → r'.SafeEvent e := by
    intro e he
    match e, he with
    | .step l true, ⟨hlt, hb⟩ =>
      exact ⟨by rw [hsize]; exact hlt, fun hl hn => hby l (hb (by rw [← hrole]; exact hl)
        (by rw [← hend]; exact hn))⟩
    | .step _ false, _ => trivial
    | .relay _ f, hw => exact hwakes f hw
    | .childDone .., _ => trivial
    | .forget .., _ => trivial
  refine ⟨?_, fun l => ?_, fun l hl hn hm => ?_, fun e he => ?_, fun l g hl hp => ?_,
    fun i g hp => ?_, fun g => ?_, fun g c hc => ?_, fun m f hw => ?_, fun c hc => ?_,
    fun m f hc => ?_⟩
  · rw [hsize, hrole]; exact h.client
  · rw [hrole, hend]; exact h.ended l
  · rw [hrole] at hl
    rw [hend] at hn
    rcases hmark l hm with hm | hb
    · exact hby l (h.marked l hl hn hm)
    · exact hby l (hb hl hn)
  · rcases hq e he with he | he
    · exact hsafe e (h.queue e he)
    · exact hsafe e he
  · -- a group the update cancelled from outside is owned by no loader, and `l` owns its group
    rw [hrole] at hl
    rw [hphase] at hp
    cases hout : (r'.group g).outsideCancel with
    | false => rfl
    | true =>
      rcases (hgroup g).2.2.2 hout with hold | hown
      · rw [h.inside l g hl hp] at hold
        cases hold
      · rw [(h.owns l g hp).2, hl] at hown
        cases hown
  · rw [hphase] at hp
    obtain ⟨hlt, ho⟩ := h.owns i g hp
    exact ⟨by rw [hgsize]; exact hlt, by rw [(hgroup g).1, ho]⟩
  · obtain ⟨hlt, hchk⟩ := h.checks g
    rw [(hgroup g).1, hsize, hrole, hend, hphase]
    exact ⟨hlt, hchk⟩
  · obtain ⟨hlt, hl⟩ := h.members g c ((hgroup g).2.1 c hc)
    exact ⟨by rw [hsize]; exact hlt, by rw [hrole]; exact hl⟩
  · rw [hwait] at hw
    exact hf f m (h.waits m f hw)
  · rw [hi] at hc
    obtain ⟨hlt, hl⟩ := h.issued c hc
    exact ⟨by rw [hsize]; exact hlt, by rw [hrole]; exact hl⟩
  · rw [hcb] at hc
    exact hwakes f (h.relays m f hc)

/-- The invariant reads of outcomes only the waiters of those that wake a task, so an update
that keeps the tasks, the groups, the issued callers and those waiters, and queues only
safe events, keeps it. -/
theorem Guarded.of_views (h : r.Guarded skip) (ht : r'.tasks = r.tasks) (hg : r'.groups = r.groups)
    (hi : r'.issued = r.issued)
    (hf : ∀ f w, (r.fut f).waiters = [w] → (r'.fut f).waiters = [w])
    (hq : ∀ e ∈ r'.queue, e ∈ r.queue ∨ r.SafeEvent e) : r'.Guarded skip :=
  h.transfer (by rw [ht]) (fun j => by rw [task_eq_of_tasks ht]) (fun j hm => .inl (by
    rw [task_eq_of_tasks ht] at hm; exact hm)) (by rw [hg])
    (fun g => by
      rw [group_eq_of_groups hg]
      exact ⟨rfl, fun _ hc => hc, id, .inl⟩) hi hf hq

/-- Dropping the front of the queue keeps the invariant. -/
theorem Guarded.pop (h : r.Guarded skip) {e : Event} {rest : List Event} (hq : r.queue = e :: rest) :
    ({ r with queue := rest } : Run).Guarded skip :=
  h.of_views rfl rfl rfl (fun _ _ hw => hw) fun x hx => .inl (by rw [hq]; exact .tail _ hx)

theorem Guarded.enqueue (h : r.Guarded skip) {e : Event} (he : r.SafeEvent e) :
    (r.enqueue e).Guarded skip :=
  h.of_views rfl rfl rfl (fun _ _ hw => hw) fun x hx => by
    rcases List.mem_append.1 hx with hx | hx
    · exact .inl hx
    · rw [List.mem_singleton.1 hx]; exact .inr he

theorem Guarded.setCache (h : r.Guarded skip) (c : Cache → Cache) : (r.setCache c).Guarded skip :=
  h.of_views rfl rfl rfl (fun _ _ hw => hw) fun _ hx => .inl hx

theorem Guarded.setStore (h : r.Guarded skip) {l : Nat} (c : Store → Store) :
    (r.setStore l c).Guarded skip :=
  h.of_views rfl rfl rfl (fun _ _ hw => hw) fun _ hx => .inl hx

theorem Guarded.note (h : r.Guarded skip) (level : Log.Level) (msg : String) :
    (r.note level msg).Guarded skip :=
  h.of_views rfl rfl rfl (fun _ _ hw => hw) fun _ hx => .inl hx

theorem Guarded.ask (h : r.Guarded skip) {α : Type} (src : String) (q : Source → Source × Reply α)
    (nothing : α) : (r.ask src q nothing).1.Guarded skip :=
  h.of_views (by simp) (by simp) (by simp)
    (fun f w hw => by
      rw [fut_eq_of_futs (by simp : (r.ask src q nothing).1.futs = r.futs)]
      exact hw)
    fun _ hx => .inl (by simpa using hx)

theorem Guarded.newFut (h : r.Guarded skip) (w : Nat) : (r.newFut w).1.Guarded skip :=
  h.of_views rfl rfl rfl (fun _ _ hw => waiters_newFut hw) fun _ hx => .inl hx

/-- Settling an outcome keeps the invariant when the steps it may queue cancelled are
safe. -/
theorem Guarded.settle (h : r.Guarded skip) (f : Nat) (st : FutState)
    (hw : st = .cancelled → ∀ w ∈ (r.fut f).waiters, r.SafeEvent (.step w true)) :
    (r.settle f st).Guarded skip := by
  refine h.of_views (by simp) (by simp) (by simp) (fun f' w hw' => by rw [waiters_settle]; exact hw')
    fun x hx => ?_
  unfold Run.settle at hx
  split at hx
  · next hp =>
    rw [foldl_enqueue] at hx
    rcases List.mem_append.1 hx with hx | hx
    · exact .inl hx
    · obtain ⟨w, hw', rfl⟩ := List.mem_map.1 hx
      cases st with
      | cancelled => exact .inr (hw rfl w hw')
      | pending => exact .inr trivial
      | resolved e => exact .inr trivial
  · exact .inl hx

/-- A group update keeps the invariant when the group keeps its owner, gains no member,
stays aborting once it is, and is cancelled from outside only when no loader owns it. -/
theorem Guarded.setGroup (h : r.Guarded skip) (g : Nat) (F : Group → Group)
    (howner : (F (r.group g)).owner = (r.group g).owner)
    (hlive : ∀ c ∈ (F (r.group g)).live, c ∈ (r.group g).live)
    (habort : (r.group g).aborting = true → (F (r.group g)).aborting = true)
    (hout : (F (r.group g)).outsideCancel = true → (r.group g).outsideCancel = true ∨
      (r.task (r.group g).owner).role.isLoader = false) :
    (r.setGroup g F).Guarded skip := by
  refine h.transfer (by simp) (fun j => by rw [task_setGroup]) (fun j hm => .inl hm) (by simp)
    (fun g' => ?_) rfl (fun _ _ hw => hw) fun _ he => .inl he
  rw [group_setGroup]
  split
  · next hg =>
    obtain ⟨rfl, -⟩ := hg
    exact ⟨howner, hlive, habort, hout⟩
  · exact ⟨rfl, fun _ hc => hc, id, .inl⟩

/-- A group update that keeps every group's owner, adds no member, clears no abort and
leaves the cancel from outside keeps the invariant. -/
theorem Guarded.updateGroup (h : r.Guarded skip) (g : Nat) (F : Group → Group)
    (howner : ∀ x, (F x).owner = x.owner) (hlive : ∀ x, ∀ c ∈ (F x).live, c ∈ x.live)
    (habort : ∀ x : Group, x.aborting = true → (F x).aborting = true)
    (hout : ∀ x : Group, (F x).outsideCancel = x.outsideCancel) : (r.setGroup g F).Guarded skip :=
  h.setGroup g F (howner _) (hlive _) (habort _) fun ho => .inl ((hout _).symm.trans ho)

/-- Marking a task for a cancelled next step keeps the invariant when a loader it marks is
one its own aborting group cancels. -/
theorem Guarded.mark (h : r.Guarded skip) (c : Nat)
    (hc : (r.task c).role.isLoader = true → (r.task c).ending = none → r.ByOwnGroup c) :
    (r.setTask c fun t => { t with mustCancel := true }).Guarded skip := by
  refine h.transfer (by simp) (fun j => ?_) (fun j hm => ?_) (by simp)
    (fun _ => ⟨rfl, fun _ hx => hx, id, .inl⟩) rfl (fun _ _ hw => hw) fun _ he => .inl he
  · rw [task_setTask]
    split <;> rfl
  · rw [task_setTask] at hm
    split at hm
    · next hj =>
      obtain ⟨rfl, -⟩ := hj
      exact .inr hc
    · exact .inl hm

/-- **Cancelling a task keeps the invariant** when a loader it cancels is one its own
aborting group cancels: the outcome a task waits on wakes that task alone, so its cancel
wakes only the cancelled task. -/
theorem Guarded.cancelTask (h : r.Guarded skip) (c : Nat)
    (hc : (r.task c).role.isLoader = true → (r.task c).ending = none → r.ByOwnGroup c) :
    (r.cancelTask c).Guarded skip := by
  unfold Run.cancelTask
  dsimp only
  split
  · exact h
  · split
    · next f hw =>
      split
      · refine h.settle f .cancelled fun _ w hw' => ?_
        rw [h.waits c f hw, List.mem_singleton] at hw'
        subst hw'
        exact ⟨lt_of_waitsOn hw, hc⟩
      · exact h.mark c hc
    · exact h.mark c hc

/-- Cancelling tasks that are no loaders keeps the invariant. -/
theorem Guarded.cancelTasks (h : r.Guarded skip) (l : List Nat)
    (hl : ∀ c ∈ l, (r.task c).role.isLoader = false) :
    (l.foldl (fun r t => r.cancelTask t) r).Guarded skip := by
  induction l generalizing r with
  | nil => exact h
  | cons c l ih =>
    rw [List.foldl_cons]
    refine ih (h.cancelTask c (Role.of_not_loader (hl c List.mem_cons_self))) fun c' hc' => ?_
    rw [(Task.standing_eq (standing_cancelTask r)).1]
    exact hl c' (List.mem_cons_of_mem c hc')

/-- Aborting a group keeps the invariant: its members are no loaders. -/
theorem Guarded.abort (h : r.Guarded skip) (g : Nat) : (r.abort g).Guarded skip := by
  have h₁ := h.setGroup g (fun x => { x with aborting := true }) rfl (fun _ hc => hc)
    (fun _ => rfl) .inl
  unfold Run.abort
  exact h₁.cancelTasks _ fun c hc => (h₁.members g c hc).2

/-! ## Updates of one task -/

/-- **What the invariant needs of an update of one task**: the task keeps its role, does
not come back from its end, ends cancelled only if it is no loader, gains no mark, waits only
on an outcome that wakes it alone and relays only to no loader; a loader that has not ended
keeps the group it checks; a task checks only a group it owns, and a loader only a group not
cancelled from outside. -/
theorem Guarded.setTask (h : r.Guarded skip) (i : Nat) (F : Task → Task)
    (hrole : (F (r.task i)).role = (r.task i).role)
    (hunend : (F (r.task i)).ending = none → (r.task i).ending = none)
    (hend : (r.task i).role.isLoader = true → (F (r.task i)).ending ≠ some .cancelled)
    (hmark : (F (r.task i)).mustCancel = true → (r.task i).mustCancel = true)
    (hkeep : (r.task i).role.isLoader = true → (F (r.task i)).ending = none →
      ∀ g, (r.task i).phase = .grouped g → (F (r.task i)).phase = .grouped g)
    (hphase : ∀ g, (F (r.task i)).phase = .grouped g → g < r.groups.size ∧
      (r.group g).owner = i ∧ ((r.task i).role.isLoader = true → (r.group g).outsideCancel = false))
    (hwait : ∀ f, (F (r.task i)).waitsOn = some f → (r.fut f).waiters = [i])
    (hcb : ∀ f, Callback.relay f ∈ (F (r.task i)).callbacks →
      Callback.relay f ∈ (r.task i).callbacks ∨ r.WakesNoLoader f) :
    (r.setTask i F).Guarded skip := by
  by_cases hi : i < r.tasks.size
  swap
  · rw [setTask_of_size_le r F (Nat.le_of_not_lt hi)]
    exact h
  have hother : ∀ j, j ≠ i → (r.setTask i F).task j = r.task j := fun j hj =>
    task_setTask_ne r F (Ne.symm hj)
  have hself : (r.setTask i F).task i = F (r.task i) := task_setTask_self r F hi
  have hrole' : ∀ j, ((r.setTask i F).task j).role = (r.task j).role := fun j => by
    by_cases hj : j = i
    · subst hj; rw [hself, hrole]
    · rw [hother j hj]
  have hunend' : ∀ j, ((r.setTask i F).task j).ending = none → (r.task j).ending = none := fun j => by
    by_cases hj : j = i
    · subst hj; rw [hself]; exact hunend
    · rw [hother j hj]; exact id
  -- a loader that has not ended keeps the group it checks, so its cancels stay its group's
  have hby : ∀ l, (r.task l).role.isLoader = true → ((r.setTask i F).task l).ending = none →
      r.ByOwnGroup l → (r.setTask i F).ByOwnGroup l := fun l hl hn ⟨g, hp, ha⟩ => by
    refine ⟨g, ?_, ha⟩
    by_cases hj : l = i
    · subst hj; rw [hself]; exact hkeep hl (hself ▸ hn) g hp
    · rw [hother l hj]; exact hp
  have hwakes : ∀ f, r.WakesNoLoader f → (r.setTask i F).WakesNoLoader f :=
    fun f ⟨w, hw, hlt, hl⟩ => ⟨w, hw, by simpa using hlt, by rw [hrole']; exact hl⟩
  refine ⟨?_, fun l => ?_, fun l hl hn hm => ?_, fun e he => ?_, fun l g hl hp => ?_,
    fun j g hp => ?_, fun g => ?_, fun g c hc => ?_, fun m f hw => ?_, fun c hc => ?_,
    fun m f hc => ?_⟩
  · rw [setTask_size, hrole']; exact h.client
  · rw [hrole']
    by_cases hj : l = i
    · subst hj; rw [hself]; exact hend
    · rw [hother l hj]; exact h.ended l
  · rw [hrole'] at hl
    refine hby l hl hn (h.marked l hl (hunend' l hn) ?_)
    by_cases hj : l = i
    · subst hj; rw [hself] at hm; exact hmark hm
    · rwa [hother l hj] at hm
  · have he' := h.queue e he
    match e, he' with
    | .step l true, ⟨hlt, hb⟩ =>
      exact ⟨by simpa using hlt, fun hl hn => by
        rw [hrole'] at hl
        exact hby l hl hn (hb hl (hunend' l hn))⟩
    | .step _ false, _ => trivial
    | .relay _ f, hw => exact hwakes f hw
    | .childDone .., _ => trivial
    | .forget .., _ => trivial
  · rw [hrole'] at hl
    by_cases hj : l = i
    · subst hj; rw [hself] at hp; exact (hphase g hp).2.2 hl
    · rw [hother l hj] at hp; exact h.inside l g hl hp
  · by_cases hj : j = i
    · subst hj; rw [hself] at hp; exact ⟨(hphase g hp).1, (hphase g hp).2.1⟩
    · rw [hother j hj] at hp; exact h.owns j g hp
  · obtain ⟨hlt, hchk⟩ := h.checks g
    refine ⟨by simpa using hlt, fun hs hl hn => ?_⟩
    rw [group_setTask] at hl hn ⊢
    rw [hrole'] at hl
    by_cases hj : (r.group g).owner = i
    · rw [hj] at hl hn ⊢
      rw [hself] at hn ⊢
      exact hkeep hl hn g (hj ▸ hchk hs (hj ▸ hl) (hj ▸ hunend hn))
    · rw [hother _ hj] at hn ⊢
      exact hchk hs hl hn
  · obtain ⟨hlt, hl⟩ := h.members g c hc
    exact ⟨by simpa using hlt, by rw [hrole']; exact hl⟩
  · by_cases hj : m = i
    · subst hj; rw [hself] at hw; exact hwait f hw
    · rw [hother m hj] at hw; exact h.waits m f hw
  · obtain ⟨hlt, hl⟩ := h.issued c hc
    exact ⟨by simpa using hlt, by rw [hrole']; exact hl⟩
  · by_cases hj : m = i
    · subst hj
      rw [hself] at hc
      rcases hcb f hc with hc | hw
      · exact hwakes f (h.relays m f hc)
      · exact hwakes f hw
    · rw [hother m hj] at hc
      exact hwakes f (h.relays m f hc)

/-- **Ending a task keeps the invariant** when a loader does not end cancelled: the events
its callbacks queue relay only to no loader. -/
theorem Guarded.finish (h : r.Guarded skip) (i : Nat) (e : Ending)
    (he : (r.task i).role.isLoader = true → e ≠ .cancelled) : (r.finish i e).Guarded skip := by
  have h₁ := h.setTask i (fun t => { t with ending := some e, waitsOn := none }) rfl
    (fun hn => by cases hn) (fun hl hc => he hl (Option.some.inj hc)) id (fun _ hn => by cases hn)
    (fun g hp => ⟨(h.owns i g hp).1, (h.owns i g hp).2, fun hl => h.inside i g hl hp⟩)
    (fun _ hw => by cases hw) fun _ hf => .inl hf
  have hcb : ((r.setTask i fun t => { t with ending := some e, waitsOn := none }).task i).callbacks =
      (r.task i).callbacks := by
    rw [task_setTask]
    split <;> rfl
  rw [finish_eq]
  refine h₁.of_views rfl rfl rfl (fun _ _ hw => hw) fun x hx => ?_
  rcases List.mem_append.1 hx with hx | hx
  · exact .inl hx
  · obtain ⟨cb, hcb', rfl⟩ := List.mem_map.1 hx
    cases cb with
    | relay f => exact .inr (h₁.relays i f (hcb ▸ hcb'))
    | childDone g => exact .inr trivial
    | forget n => exact .inr trivial
    | wake j => exact .inr trivial

/-- A task that checks no group, or is no loader, moves to a phase that checks none. -/
theorem Guarded.setPhase (h : r.Guarded skip) (i : Nat) (p : Phase) (hp : ∀ g, p ≠ .grouped g)
    (hfree : (r.task i).role.isLoader = true → ∀ g, (r.task i).phase ≠ .grouped g) :
    (r.setTask i fun t => { t with phase := p }).Guarded skip :=
  h.setTask i _ rfl id (h.ended i) id (fun hl _ g hg => absurd hg (hfree hl g))
    (fun g hg => absurd hg (hp g)) (h.waits i) fun _ hf => .inl hf

/-- Adding a callback keeps the invariant when a relay it adds wakes no loader. -/
theorem Guarded.addCallback (h : r.Guarded skip) (j : Nat) (cb : Callback)
    (hcb : ∀ f, cb = .relay f → r.WakesNoLoader f) :
    (r.setTask j fun t => { t with callbacks := t.callbacks ++ [cb] }).Guarded skip := by
  refine h.setTask j _ rfl id (h.ended j) id (fun _ _ _ hp => hp)
    (fun g hp => ⟨(h.owns j g hp).1, (h.owns j g hp).2, fun hl => h.inside j g hl hp⟩)
    (h.waits j) fun f hf => ?_
  rcases List.mem_append.1 hf with hf | hf
  · exact .inl hf
  · exact .inr (hcb f (List.mem_singleton.1 hf).symm)

/-- Once the owner of the exempt group checks it, or is no loader, or has ended, no group is
exempt. -/
theorem Guarded.unskip (h : r.Guarded skip)
    (hg : ∀ g, skip = some g → (r.task (r.group g).owner).role.isLoader = true →
      (r.task (r.group g).owner).ending = none → (r.task (r.group g).owner).phase = .grouped g) :
    r.Shielded :=
  { h with
    checks := fun g => ⟨(h.checks g).1, fun _ => by
      by_cases hs : skip = some g
      · exact hg g hs
      · exact (h.checks g).2 (Ne.symm hs)⟩ }

/-! ## Starting tasks and groups -/

/-- **What the invariant needs of an update that starts tasks and groups**: the tasks and
groups there were stay as they were; a new task has not ended, is not marked, starts at the
beginning, waits on nothing and relays only to no loader; a new group is owned by a task,
its members are no loaders, and an owner that is a loader is exempt from checking it; the
outcomes that wake a task keep their waiters, the issued callers stay, and the queue gains
only steps that are not cancelled. -/
theorem Guarded.grow (h : r.Guarded skip) {skip' : Option Nat}
    (hsize : r.tasks.size ≤ r'.tasks.size) (hold : ∀ j < r.tasks.size, r'.task j = r.task j)
    (hnew : ∀ j, r.tasks.size ≤ j → (r'.task j).ending = none ∧ (r'.task j).mustCancel = false ∧
      (r'.task j).phase = .start ∧ (r'.task j).waitsOn = none ∧
      ∀ f, Callback.relay f ∈ (r'.task j).callbacks → r.WakesNoLoader f)
    (hgsize : r.groups.size ≤ r'.groups.size)
    (hgold : ∀ g < r.groups.size, r'.group g = r.group g ∧ (some g ≠ skip' → some g ≠ skip))
    (hgnew : ∀ g, r.groups.size ≤ g → g < r'.groups.size →
      (r'.group g).owner < r'.tasks.size ∧
      (some g ≠ skip' → (r'.task (r'.group g).owner).role.isLoader = false) ∧
      ∀ c ∈ (r'.group g).live, c < r'.tasks.size ∧ (r'.task c).role.isLoader = false)
    (hi : r'.issued = r.issued) (hf : ∀ f w, (r.fut f).waiters = [w] → (r'.fut f).waiters = [w])
    (hq : ∀ e ∈ r'.queue, e ∈ r.queue ∨ ∃ j, e = .step j false) : r'.Guarded skip' := by
  have hclient : (r'.task 0).role = .client := by rw [hold 0 h.client.1]; exact h.client.2
  have hwakes : ∀ f, r.WakesNoLoader f → r'.WakesNoLoader f := fun f ⟨w, hw, hlt, hl⟩ =>
    ⟨w, hf f w hw, Nat.lt_of_lt_of_le hlt hsize, by rw [hold w hlt]; exact hl⟩
  -- a task there was keeps its group, and so its group's cancels
  have hby : ∀ l < r.tasks.size, r.ByOwnGroup l → r'.ByOwnGroup l := fun l hl ⟨g, hp, ha⟩ =>
    ⟨g, by rw [hold l hl]; exact hp, by rw [(hgold g (h.owns l g hp).1).1]; exact ha⟩
  -- past the groups there are only default groups, owned by the client and empty
  have hpast : ∀ g, r'.groups.size ≤ g → r'.group g = default := fun g hg => group_of_size_le r' hg
  refine ⟨⟨Nat.lt_of_lt_of_le h.client.1 hsize, hclient⟩, fun l => ?_, fun l hl hn hm => ?_,
    fun e he => ?_, fun l g hl hp => ?_, fun j g hp => ?_, fun g => ?_, fun g c hc => ?_,
    fun m f hw => ?_, fun c hc => ?_, fun m f hc => ?_⟩
  · by_cases hj : l < r.tasks.size
    · rw [hold l hj]; exact h.ended l
    · rw [(hnew l (Nat.le_of_not_lt hj)).1]; exact fun _ hc => by cases hc
  · by_cases hj : l < r.tasks.size
    · rw [hold l hj] at hl hn hm
      exact hby l hj (h.marked l hl hn hm)
    · rw [(hnew l (Nat.le_of_not_lt hj)).2.1] at hm
      cases hm
  · rcases hq e he with he | ⟨j, rfl⟩
    · match e, h.queue e he with
      | .step l true, ⟨hlt, hb⟩ =>
        exact ⟨Nat.lt_of_lt_of_le hlt hsize, fun hl hn => by
          rw [hold l hlt] at hl hn
          exact hby l hlt (hb hl hn)⟩
      | .step _ false, _ => trivial
      | .relay _ f, hw => exact hwakes f hw
      | .childDone .., _ => trivial
      | .forget .., _ => trivial
    · trivial
  · by_cases hj : l < r.tasks.size
    · rw [hold l hj] at hl hp
      rw [(hgold g (h.owns l g hp).1).1]
      exact h.inside l g hl hp
    · rw [(hnew l (Nat.le_of_not_lt hj)).2.2.1] at hp
      cases hp
  · by_cases hj : j < r.tasks.size
    · rw [hold j hj] at hp
      obtain ⟨hlt, ho⟩ := h.owns j g hp
      exact ⟨Nat.lt_of_lt_of_le hlt hgsize, by rw [(hgold g hlt).1]; exact ho⟩
    · rw [(hnew j (Nat.le_of_not_lt hj)).2.2.1] at hp
      cases hp
  · by_cases hg : g < r.groups.size
    · obtain ⟨heq, hs⟩ := hgold g hg
      obtain ⟨hlt, hchk⟩ := h.checks g
      rw [heq, hold _ hlt]
      exact ⟨Nat.lt_of_lt_of_le hlt hsize, fun hs' => hchk (hs hs')⟩
    · by_cases hg' : g < r'.groups.size
      · obtain ⟨hlt, hl, -⟩ := hgnew g (Nat.le_of_not_lt hg) hg'
        exact ⟨hlt, fun hs h' => absurd h' (by rw [hl hs]; decide)⟩
      · rw [hpast g (Nat.le_of_not_lt hg')]
        exact ⟨Nat.lt_of_lt_of_le h.client.1 hsize, fun _ h' => absurd h' (by
          rw [show (default : Group).owner = 0 from rfl, hclient]; decide)⟩
  · by_cases hg : g < r.groups.size
    · rw [(hgold g hg).1] at hc
      obtain ⟨hlt, hl⟩ := h.members g c hc
      exact ⟨Nat.lt_of_lt_of_le hlt hsize, by rw [hold c hlt]; exact hl⟩
    · by_cases hg' : g < r'.groups.size
      · exact (hgnew g (Nat.le_of_not_lt hg) hg').2.2 c hc
      · rw [hpast g (Nat.le_of_not_lt hg')] at hc
        cases hc
  · by_cases hj : m < r.tasks.size
    · rw [hold m hj] at hw
      exact hf f m (h.waits m f hw)
    · rw [(hnew m (Nat.le_of_not_lt hj)).2.2.2.1] at hw
      cases hw
  · rw [hi] at hc
    obtain ⟨hlt, hl⟩ := h.issued c hc
    exact ⟨Nat.lt_of_lt_of_le hlt hsize, by rw [hold c hlt]; exact hl⟩
  · by_cases hj : m < r.tasks.size
    · rw [hold m hj] at hc
      exact hwakes f (h.relays m f hc)
    · exact hwakes f ((hnew m (Nat.le_of_not_lt hj)).2.2.2.2 f hc)

/-- Starting a task that relays only to no loader keeps the invariant. -/
theorem Guarded.spawn (h : r.Guarded skip) (role : Role) (cbs : List Callback)
    (hcb : ∀ f, Callback.relay f ∈ cbs → r.WakesNoLoader f) : (r.spawn role cbs).1.Guarded skip := by
  refine h.grow (by simp) (fun j hj => by rw [task_spawn, if_neg (Nat.ne_of_lt hj)])
    (fun j hj => ?_) (by simp) (fun g _ => ⟨rfl, id⟩) (fun g hg hg' => absurd hg' (by simpa using hg))
    rfl (fun _ _ hw => hw) fun e he => ?_
  · rw [task_spawn]
    split
    · exact ⟨rfl, rfl, rfl, rfl, hcb⟩
    · rw [task_of_size_le r hj]
      exact ⟨rfl, rfl, rfl, rfl, fun _ hf => by cases hf⟩
  · rcases List.mem_append.1 he with he | he
    · exact .inl he
    · exact .inr ⟨_, List.mem_singleton.1 he⟩

/-- **Starting a group of tasks that are no loaders keeps the invariant**, with the new group
exempt until its owner checks it. -/
theorem Guarded.startGroup (h : r.Shielded) (o : Nat) (roles : List Role) (ho : o < r.tasks.size)
    (hroles : ∀ ρ ∈ roles, ρ.isLoader = false) :
    (r.startGroup o roles).1.Guarded (some r.groups.size) := by
  -- a task past the old ones is a member, started with its role, or a default task
  have hnew : ∀ j, r.tasks.size ≤ j → (∃ ρ ∈ roles, (r.startGroup o roles).1.task j =
      { role := ρ, callbacks := [.childDone r.groups.size] } ∧ j < r.tasks.size + roles.length) ∨
      ((r.startGroup o roles).1.task j = default ∧ r.tasks.size + roles.length ≤ j) := by
    intro j hj
    rw [task_startGroup_of_le r o roles hj]
    cases hx : roles[j - r.tasks.size]? with
    | none =>
      have := List.getElem?_eq_none_iff.1 hx
      exact .inr ⟨rfl, by omega⟩
    | some ρ =>
      have hlt : j - r.tasks.size < roles.length := (List.getElem?_eq_some_iff.1 hx).1
      exact .inl ⟨ρ, List.mem_of_getElem? hx, rfl, by omega⟩
  refine h.grow (by simp) (fun j hj => task_startGroup_of_lt r o roles hj) (fun j hj => ?_) (by simp)
    (fun g hg => ⟨by rw [group_startGroup, if_pos hg], fun _ => by simp⟩)
    (fun g hg hg' => ?_) (by simp)
    (fun _ _ hw => by rw [fut_eq_of_futs (startGroup_futs r o roles)]; exact hw) fun e he => ?_
  · rcases hnew j hj with ⟨ρ, -, ht, -⟩ | ⟨ht, -⟩ <;> rw [ht]
    · exact ⟨rfl, rfl, rfl, rfl, fun _ hf => by simp at hf⟩
    · exact ⟨rfl, rfl, rfl, rfl, fun _ hf => by cases hf⟩
  · have hg₀ : g = r.groups.size := by simp at hg'; omega
    subst hg₀
    rw [group_startGroup, if_neg (Nat.lt_irrefl _), if_pos rfl]
    refine ⟨by simp; omega, fun hs => absurd rfl hs, fun c hc => ?_⟩
    simp only [List.mem_range'_1] at hc
    rcases hnew c hc.1 with ⟨ρ, hρ, ht, hlt⟩ | ⟨-, hle⟩
    · rw [ht]
      exact ⟨by simp; omega, hroles ρ hρ⟩
    · omega
  · rw [startGroup_queue] at he
    rcases List.mem_append.1 he with he | he
    · exact .inl he
    · obtain ⟨c, -, rfl⟩ := List.mem_map.1 he
      exact .inr ⟨c, rfl⟩

/-! ## Ending a task and checking a group -/

theorem owner_setGroup {F : Group → Group} (hF : ∀ x, (F x).owner = x.owner) (g g' : Nat) :
    ((r.setGroup g F).group g').owner = (r.group g').owner := by
  rw [group_setGroup]
  split
  · exact hF _
  · rfl

theorem owner_exitCancel (g g' : Nat) (thrown : Bool) :
    ((r.exitCancel g thrown).group g').owner = (r.group g').owner := by
  unfold Run.exitCancel
  split
  · rw [group_eq_of_groups (abort_groups _), owner_setGroup (F := fun x => { x with aborting := true })
      (fun _ => rfl), owner_setGroup (F := fun x => { x with outsideCancel := true }) (fun _ => rfl)]
  · rfl

theorem groups_size_exitCancel (g : Nat) (thrown : Bool) :
    (r.exitCancel g thrown).groups.size = r.groups.size := by
  unfold Run.exitCancel
  split
  · simp [abort_groups]
  · rfl

/-- A task that ends ends the exemption of a group it owns. -/
theorem Guarded.finishOwner (h : r.Guarded skip) (i : Nat) (e : Ending)
    (he : (r.task i).role.isLoader = true → e ≠ .cancelled)
    (hskip : ∀ g, skip = some g → (r.group g).owner = i) : (r.finish i e).Shielded := by
  refine (h.finish i e he).unskip fun g hs _ hn => absurd hn ?_
  have hown := hskip g hs
  have hi : i < r.tasks.size := hown ▸ (h.checks g).1
  rw [group_eq_of_groups (finish_groups r e), hown, task_finish_self r e hi]
  simp

theorem Guarded.loadFailed (h : r.Guarded skip) (i : Nat) (f : LoadFailure)
    (hskip : ∀ g, skip = some g → (r.group g).owner = i) : (r.loadFailed i f).Shielded := by
  unfold Run.loadFailed
  split
  · exact (h.note _ _).finishOwner i _ (fun _ h => by cases h) hskip
  · exact h.finishOwner i _ (fun _ h => by cases h) hskip

theorem Guarded.publish (h : r.Guarded skip) (i : Nat)
    (hskip : ∀ g, skip = some g → (r.group g).owner = i) : (r.publish i).Shielded := by
  unfold Run.publish
  split
  · dsimp only
    split
    · exact (h.note _ _).finishOwner i _ (fun _ h => by cases h) hskip
    · exact ((h.setCache _).note _ _).finishOwner i _ (fun _ h => by cases h) hskip
  · exact h.finishOwner i _ (fun _ h => by cases h) hskip

/-- An owner whose members have all ended ends, a loader not cancelled when its group was
not cancelled from outside. -/
theorem Guarded.groupEnd (h : r.Guarded skip) (i g : Nat)
    (hout : (r.task i).role.isLoader = true → (r.group g).outsideCancel = false)
    (hskip : ∀ g', skip = some g' → (r.group g').owner = i) : (r.groupEnd i g).Shielded := by
  unfold Run.groupEnd
  dsimp only
  split
  · next hc =>
    refine h.finishOwner i _ (fun hl _ => ?_) hskip
    rw [hout hl] at hc
    simp at hc
  · split
    · split
      · split
        · exact h.loadFailed i _ hskip
        · exact h.finishOwner i _ (fun _ h => by cases h) hskip
      · exact h.finishOwner i _ (fun _ h => by cases h) hskip
    · split
      · exact h.publish i hskip
      · exact h.finishOwner i _ (fun _ h => by cases h) hskip

/-- An owner cancelled from outside aborts its group; it is no loader, since a loader is
cancelled only by its own aborting group. -/
theorem Guarded.exitCancel (h : r.Guarded skip) (i g : Nat) (thrown : Bool)
    (hown : (r.group g).owner = i)
    (hthrown : (r.task i).role.isLoader = true → thrown = true → (r.group g).aborting = true) :
    (r.exitCancel g thrown).Guarded skip := by
  unfold Run.exitCancel
  split
  · next hc =>
    simp only [Bool.and_eq_true, Bool.not_eq_true'] at hc
    refine (h.setGroup g _ rfl (fun _ hc => hc) id fun _ => .inr ?_).abort g
    rw [hown]
    cases hl : (r.task i).role.isLoader
    · rfl
    · rw [hthrown hl hc.1] at hc
      cases hc.2
  · exact h

/-- **An owner that checks its group ends the group's exemption**: it waits again on a new
outcome of its own, or ends. -/
theorem Guarded.groupResume (h : r.Guarded skip) (i g : Nat) (hskip : ∀ g', skip = some g' → g' = g)
    (hg : g < r.groups.size) (hown : (r.group g).owner = i)
    (hout : (r.task i).role.isLoader = true → (r.group g).outsideCancel = false)
    (hphase : (r.task i).role.isLoader = true → ∀ g', (r.task i).phase = .grouped g' → g' = g) :
    (r.groupResume i g).Shielded := by
  have hi : i < r.tasks.size := hown ▸ (h.checks g).1
  rw [groupResume_eq]
  split
  · -- it waits again, on an outcome that wakes it alone
    have h₁ : ((r.newFut i).1.setGroup g fun x => { x with fut := some r.futs.size }).Guarded skip :=
      (h.newFut i).setGroup g _ rfl (fun _ hc => hc) id .inl
    have hw : ((r.newFut i).1.fut r.futs.size).waiters = [i] := by rw [fut_newFut, if_pos rfl]
    have hgrp : ((r.newFut i).1.setGroup g fun x => { x with fut := some r.futs.size }).group g =
        { r.group g with fut := some r.futs.size } := group_setGroup_self _ _ hg
    refine (h₁.setTask i (fun t => { t with phase := .grouped g, waitsOn := some r.futs.size }) rfl
      id (h₁.ended i) id (fun hl _ g' hp => by rw [hphase hl g' hp])
      (fun g' hp => ?_) (fun f hf => by cases hf; exact hw) fun _ hf => .inl hf).unskip
      fun g' hs _ _ => ?_
    · cases hp
      rw [hgrp]
      exact ⟨by simpa using hg, hown, hout⟩
    · obtain rfl := hskip g' hs
      rw [group_setTask, hgrp]
      dsimp only
      rw [hown, task_setTask_self _ _ (by simpa using hi)]
  · exact h.groupEnd i g hout fun g' hs => by rw [hskip g' hs, hown]

/-- **An owner's check of its group keeps the invariant**, and ends the exemption of the
group. -/
theorem Guarded.groupExit (h : r.Guarded skip) (i g : Nat) (thrown : Bool)
    (hskip : ∀ g', skip = some g' → g' = g) (hg : g < r.groups.size) (hown : (r.group g).owner = i)
    (hthrown : (r.task i).role.isLoader = true → thrown = true → (r.group g).aborting = true)
    (hout : (r.task i).role.isLoader = true → (r.group g).outsideCancel = false)
    (hphase : (r.task i).role.isLoader = true → ∀ g', (r.task i).phase = .grouped g' → g' = g) :
    (r.groupExit i g thrown).Shielded := by
  rw [groupExit_eq]
  have hst := Task.standing_eq (standing_exitCancel r thrown (j := i) (g := g))
  have h₁ := (h.exitCancel i g thrown hown hthrown).setGroup g (fun x => { x with fut := none })
    rfl (fun _ hc => hc) id .inl
  refine h₁.groupResume i g hskip (by simpa [groups_size_exitCancel] using hg)
    (by rw [owner_setGroup (F := fun x => { x with fut := none }) (fun _ => rfl), owner_exitCancel,
      hown]) (fun hl => ?_) fun hl => ?_
  all_goals
    rw [task_setGroup, hst.1] at hl
  · -- a loader is cancelled only by its aborting group, so the check cancelled nothing
    have hsame : r.exitCancel g thrown = r := by
      unfold Run.exitCancel
      cases thrown
      · rfl
      · rw [hthrown hl rfl]; rfl
    rw [hsame, group_setGroup]
    split <;> exact hout hl
  · rw [task_setGroup, hst.2.1]
    exact hphase hl

/-! ## The steps of a turn -/


/-- A task whose role is not the client's exists. -/
theorem lt_of_role_ne_client {i : Nat} (h : (r.task i).role ≠ .client) : i < r.tasks.size := by
  by_contra hlt
  exact h (by rw [task_of_size_le r (Nat.le_of_not_lt hlt)]; rfl)

/-- A task that has left its first phase exists. -/
theorem lt_of_phase_ne_start {i : Nat} (h : (r.task i).phase ≠ .start) : i < r.tasks.size := by
  by_contra hlt
  exact h (by rw [task_of_size_le r (Nat.le_of_not_lt hlt)]; rfl)

/-- **Cancelling an issued caller keeps the invariant**: the callers a client issues are no
loaders. -/
theorem Guarded.cancelIssued (h : r.Guarded skip) (k : Nat) : (r.cancelIssued k).Guarded skip := by
  rcases cancelIssued_cases r k with ⟨c, hc, heq⟩ | heq <;> rw [heq]
  · exact h.cancelTask c (Role.of_not_loader
      (h.issued c (List.mem_filterMap.2 ⟨some c, List.mem_of_getElem? hc, rfl⟩)).2)
  · exact h

/-- A question keeps the invariant: the task yields to a phase that checks no group, or goes
on with the answer from a run whose tasks and groups are those it asked from. -/
theorem Guarded.askOrYield (h : r.Shielded) (i : Nat) (src : String) {α : Type}
    (q : Source → Source × Reply α) (nothing : α) (phase : Except FetchError α → Phase)
    (hphase : ∀ o g, phase o ≠ .grouped g) {go : Run → Except FetchError α → Run}
    (hfree : (r.task i).role.isLoader = true → ∀ g, (r.task i).phase ≠ .grouped g)
    (hgo : ∀ r₁ o, r₁.Shielded → r₁.tasks = r.tasks → r₁.groups = r.groups → (go r₁ o).Shielded) :
    (let (r₁, reply) := r.ask src q nothing
     if reply.yields then
       (r₁.setTask i fun t => { t with phase := phase reply.outcome }).enqueue (.step i false)
     else go r₁ reply.outcome).Shielded := by
  have hask : (r.ask src q nothing).1.Shielded := h.ask src q nothing
  have htasks : (r.ask src q nothing).1.tasks = r.tasks := by simp
  have hgroups : (r.ask src q nothing).1.groups = r.groups := by simp
  generalize r.ask src q nothing = a at hask htasks hgroups
  obtain ⟨r₁, reply⟩ := a
  dsimp only at hask htasks hgroups ⊢
  split
  · refine (hask.setPhase i _ (hphase _) ?_).enqueue trivial
    rw [task_eq_of_tasks htasks]
    exact hfree
  · exact hgo r₁ _ hask htasks hgroups

theorem Guarded.fetchNames (h : r.Shielded) (i : Nat) (src : String) (d : Option Value)
    {go : Run → Except FetchError (List Value) → Run}
    (hfree : (r.task i).role.isLoader = true → ∀ g, (r.task i).phase ≠ .grouped g)
    (hgo : ∀ r₁ o, r₁.Shielded → r₁.tasks = r.tasks → r₁.groups = r.groups → (go r₁ o).Shielded) :
    (r.fetchNames i src d go).Shielded :=
  h.askOrYield i src _ [] .gotNames (fun _ _ h => by cases h) hfree hgo

theorem Guarded.fetchColumns (h : r.Shielded) (i : Nat) (src : String) (d t : Value)
    {go : Run → Except FetchError (List ColumnEntry) → Run}
    (hfree : (r.task i).role.isLoader = true → ∀ g, (r.task i).phase ≠ .grouped g)
    (hgo : ∀ r₁ o, r₁.Shielded → r₁.tasks = r.tasks → r₁.groups = r.groups → (go r₁ o).Shielded) :
    (r.fetchColumns i src d t go).Shielded :=
  h.askOrYield i src _ [] .gotColumns (fun _ _ h => by cases h) hfree hgo

/-- An owner that checks no group starts a group of tasks that are no loaders and checks
it. -/
theorem Guarded.startAndCheck (h : r.Shielded) (i : Nat) (roles : List Role)
    (hi : i < r.tasks.size) (hroles : ∀ ρ ∈ roles, ρ.isLoader = false)
    (hfree : (r.task i).role.isLoader = true → ∀ g, (r.task i).phase ≠ .grouped g) :
    ((r.startGroup i roles).1.groupExit i (r.startGroup i roles).2 false).Shielded := by
  have hgrp : (r.startGroup i roles).1.group r.groups.size =
      { owner := i, live := List.range' r.tasks.size roles.length } := by
    rw [group_startGroup, if_neg (Nat.lt_irrefl _), if_pos rfl]
  have ht : (r.startGroup i roles).1.task i = r.task i := task_startGroup_of_lt r i roles hi
  rw [startGroup_snd]
  refine (h.startGroup i roles hi hroles).groupExit i _ false (fun _ hs => (Option.some.inj hs).symm)
    (by simp) (by rw [hgrp]) (fun _ hc => by cases hc) (fun _ => by rw [hgrp]) fun hl g hp => ?_
  rw [ht] at hl hp
  exact absurd hp (hfree hl g)

/-- A loader with its database list starts its group of database tasks and checks it, or
fails. -/
theorem Guarded.loaderDatabases (h : r.Shielded) (i : Nat) (o : Except FetchError (List Value))
    (hi : i < r.tasks.size) (hfree : ∀ g, (r.task i).phase ≠ .grouped g) :
    (r.loaderDatabases i o).Shielded := by
  unfold Run.loaderDatabases
  split
  · exact h.loadFailed i _ fun _ hs => by cases hs
  · dsimp only
    exact (h.setStore (l := i) _).startAndCheck i _ hi (by simp [Role.isLoader]) fun _ => hfree

theorem Guarded.databaseTables (h : r.Shielded) (i l : Nat) (d : Value)
    (o : Except FetchError (List Value)) (hi : i < r.tasks.size)
    (hl : (r.task i).role.isLoader = false) : (r.databaseTables i l d o).Shielded := by
  unfold Run.databaseTables
  split
  · exact h.finish i _ (Role.of_not_loader hl)
  · split
    · exact h.finish i _ (Role.of_not_loader hl)
    · dsimp only
      split
      · exact (h.setStore _).finish i _ (Role.of_not_loader hl)
      · exact (h.setStore _).startAndCheck i _ hi (by simp [Role.isLoader]) (Role.of_not_loader hl)

theorem Guarded.columnsFetched (h : r.Shielded) (i l : Nat) (d t : Value)
    (o : Except FetchError (List ColumnEntry)) (hl : (r.task i).role.isLoader = false) :
    (r.columnsFetched i l d t o).Shielded := by
  unfold Run.columnsFetched
  split
  · exact h.finish i _ (Role.of_not_loader hl)
  · split
    · exact h.finish i _ (Role.of_not_loader hl)
    · exact (h.setStore _).finish i _ (Role.of_not_loader hl)

/-- **A caller waits through a shield**: on a new outcome of its own, to which the load
relays its ending; or it takes the ending of a load that has ended. -/
theorem Guarded.shield (h : r.Shielded) (i l : Nat) (hi : i < r.tasks.size)
    (hl : (r.task i).role.isLoader = false) : (r.shield i l).Shielded := by
  unfold Run.shield
  split
  · exact h.finish i _ (Role.of_not_loader hl)
  · dsimp only
    have hw : ((r.newFut i).1.fut r.futs.size).waiters = [i] := by rw [fut_newFut, if_pos rfl]
    have h₁ := (h.newFut i).addCallback l (.relay r.futs.size) fun f hf => by
      cases hf
      exact ⟨i, hw, hi, hl⟩
    have hl₁ : (((r.newFut i).1.setTask l fun t =>
        { t with callbacks := t.callbacks ++ [.relay r.futs.size] }).task i).role.isLoader = false := by
      rw [task_setTask]
      split <;> exact hl
    exact h₁.setTask i _ rfl id (Role.of_not_loader hl₁) id (Role.of_not_loader hl₁)
      (fun g hp => by cases hp) (fun f hf => by cases hf; exact hw) fun _ hf => .inl hf

theorem Guarded.callerStart (h : r.Shielded) (i : Nat) (name src : String) (refresh : Bool)
    (hi : i < r.tasks.size) (hl : (r.task i).role.isLoader = false) :
    (r.callerStart i name src refresh).Shielded := by
  have h₀ : (if refresh then r.setCache (·.clear name) else r).Shielded := by
    split
    · exact h.setCache _
    · exact h
  have ht : (if refresh then r.setCache (·.clear name) else r).tasks = r.tasks := by
    split <;> rfl
  unfold Run.callerStart
  generalize (if refresh then r.setCache (·.clear name) else r) = r₁ at h₀ ht
  have hi₁ : i < r₁.tasks.size := by rw [ht]; exact hi
  have hl₁ : (r₁.task i).role.isLoader = false := by rw [task_eq_of_tasks ht]; exact hl
  dsimp only
  split
  · exact (h₀.note _ _).shield i _ hi₁ hl₁
  · -- a new load starts before the caller waits on it
    have h₂ : ((r₁.spawn (.loader name src (r₁.world.cache.generation name)) [.forget name]).1.setCache
        fun c => { c with inflight := setEntry c.inflight name r₁.tasks.size }).Shielded :=
      (h₀.spawn _ _ fun _ hf => by simp at hf).setCache _
    refine h₂.shield i _ (by simp; omega) ?_
    show ((r₁.spawn _ _).1.task i).role.isLoader = false
    rw [task_spawn, if_neg (Nat.ne_of_lt hi₁)]
    exact hl₁

theorem Guarded.clientAwait (h : r.Shielded) (i : Nat) (hc : (r.task i).role = .client)
    (cs : List Nat) : (r.clientAwait i cs).Shielded := by
  have hl : (r.task i).role.isLoader = false := by rw [hc]; rfl
  induction cs with
  | nil => exact h.finish i _ (Role.of_not_loader hl)
  | cons c cs ih =>
    unfold Run.clientAwait
    split
    · exact ih
    · refine (h.addCallback c (.wake i) fun _ h => by cases h).setPhase i _ (fun _ h => by cases h)
        (Role.of_not_loader ?_)
      rw [task_setTask]
      split <;> exact hl

/-- Recording the entries a client issued keeps the invariant when it records no new
caller. -/
theorem Guarded.reissue (h : r.Guarded skip) {L : List (Option Nat)}
    (hL : L.filterMap id = r.issued.filterMap id) : ({ r with issued := L } : Run).Guarded skip :=
  { h with issued := fun c hc => h.issued c (hL ▸ hc) }

/-- A client issues a caller, which is no loader, and yields. -/
theorem Guarded.issueCaller (h : r.Shielded) (i : Nat) (hi : i < r.tasks.size)
    (hc : (r.task i).role = .client) (ρ : Role) (hρ : ρ.isLoader = false) (rest : List Plan) :
    (r.issueCaller i ρ rest).Shielded := by
  have h₁ := h.spawn ρ [] fun _ hf => by cases hf
  have hnew : ((r.spawn ρ []).1.task r.tasks.size).role = ρ := by rw [task_spawn, if_pos rfl]
  unfold Run.issueCaller
  dsimp only
  have h₂ : ({ (r.spawn ρ []).1 with issued := (r.spawn ρ []).1.issued ++ [some r.tasks.size] } :
      Run).Shielded :=
    { h₁ with
      issued := fun c hc' => by
        simp only [List.filterMap_append, List.mem_append] at hc'
        rcases hc' with hc' | hc'
        · exact h₁.issued c hc'
        · simp at hc'
          subst hc'
          exact ⟨by simp, show ((r.spawn ρ []).1.task r.tasks.size).role.isLoader = false by
            rw [hnew]; exact hρ⟩ }
  refine (h₂.setPhase i _ (fun _ h => by cases h) (Role.of_not_loader ?_)).enqueue trivial
  show ((r.spawn ρ []).1.task i).role.isLoader = false
  rw [task_spawn, if_neg (Nat.ne_of_lt hi), hc]
  rfl

/-- **A client issues its plan keeping the invariant**, whichever of its callers it
cancels. -/
theorem Guarded.clientIssue (h : r.Shielded) (i : Nat) (hi : i < r.tasks.size)
    (hc : (r.task i).role = .client) (rest : List Plan) : (r.clientIssue i rest).Shielded := by
  induction rest generalizing r with
  | nil => exact h.clientAwait i hc _
  | cons p rest ih =>
    cases p with
    | clear n =>
      rw [Run.clientIssue]
      exact ih ((h.setCache _).reissue (by simp)) hi hc
    | cancel k =>
      rw [Run.clientIssue]
      exact ih ((h.cancelIssued k).reissue (by simp)) (by simpa using hi)
        ((Task.standing_eq (standing_cancelIssued r k)).1.trans hc)
    | load n src => exact h.issueCaller i hi hc _ rfl rest
    | refresh n src => exact h.issueCaller i hi hc _ rfl rest

/-- **What a step does keeps the invariant**, by the task's role and phase, when a loader
resumes cancelled only inside a group that is aborting. -/
theorem Guarded.resume (h : r.Shielded) (i : Nat) (thrown : Bool) (ρ : Role) (ph : Phase)
    (hρ : (r.task i).role = ρ) (hph : (r.task i).phase = ph)
    (hthrown : ρ.isLoader = true → thrown = true → ∃ g, ph = .grouped g ∧ (r.group g).aborting = true) :
    (r.resume i thrown ρ ph).Shielded := by
  -- a loader outside a group resumes not cancelled
  have hcalm : ρ.isLoader = true → (∀ g, ph ≠ .grouped g) → thrown = false := fun hl hfree => by
    cases ht : thrown
    · rfl
    · obtain ⟨g, hg, -⟩ := hthrown hl ht
      exact absurd hg (hfree g)
  have hl : ρ.isLoader = false → (r.task i).role.isLoader = false := fun h' => hρ ▸ h'
  cases ph with
  | grouped g =>
    obtain ⟨hg, hown⟩ := h.owns i g hph
    have hab : (r.task i).role.isLoader = true → thrown = true → (r.group g).aborting = true :=
      fun hl' ht => by
        obtain ⟨g', hg', ha⟩ := hthrown (hρ ▸ hl') ht
        cases hg'
        exact ha
    cases ρ <;> exact h.groupExit i g thrown (fun _ hs => by cases hs) hg hown hab
      (fun hl' => h.inside i g hl' hph) fun _ g' hp => by rw [hph] at hp; cases hp; rfl
  | issuing rest =>
    cases ρ with
    | client => exact h.clientIssue i (lt_of_phase_ne_start (by rw [hph]; intro h; cases h)) hρ rest
    | _ => exact h
  | awaiting cs =>
    cases ρ with
    | client => exact h.clientAwait i hρ cs
    | _ => exact h
  | shielded f =>
    cases ρ with
    | caller n src refresh =>
      simp only [Run.resume]
      split
      · exact h.finish i _ (Role.of_not_loader (hl rfl))
      · exact h.finish i _ (Role.of_not_loader (hl rfl))
      · exact h
    | _ => exact h
  | start =>
    have hi : ρ ≠ .client → i < r.tasks.size := fun hc => lt_of_role_ne_client (hρ ▸ hc)
    cases ρ with
    | client => exact h
    | caller n src refresh =>
      simp only [Run.resume]
      split
      · exact h.finish i _ (Role.of_not_loader (hl rfl))
      · exact h.callerStart i n src refresh (hi fun h => by cases h) (hl rfl)
    | loader n src g =>
      simp only [Run.resume, hcalm rfl (fun _ h' => by cases h'), Bool.false_eq_true, ↓reduceIte]
      refine (h.note _ _).fetchNames i src none (fun _ _ => by rw [task_note, hph]; intro h; cases h)
        fun r₁ o h₁ ht _ => h₁.loaderDatabases i o (by rw [ht]; exact hi fun h => by cases h) fun g' => ?_
      rw [task_eq_of_tasks ht, task_note, hph]
      intro h
      cases h
    | database l d =>
      simp only [Run.resume]
      split
      · exact h.finish i _ (Role.of_not_loader (hl rfl))
      · exact h.fetchNames i _ _ (Role.of_not_loader (hl rfl)) fun r₁ o h₁ ht _ =>
          h₁.databaseTables i l d o (by rw [ht]; exact hi fun h => by cases h)
            (by rw [task_eq_of_tasks ht]; exact hl rfl)
    | columns l d t =>
      simp only [Run.resume]
      split
      · exact h.finish i _ (Role.of_not_loader (hl rfl))
      · exact h.fetchColumns i _ d t (Role.of_not_loader (hl rfl)) fun r₁ o h₁ ht _ =>
          h₁.columnsFetched i l d t o (by rw [task_eq_of_tasks ht]; exact hl rfl)
  | gotNames o =>
    have hi : i < r.tasks.size := lt_of_phase_ne_start (by rw [hph]; intro h; cases h)
    cases ρ with
    | loader n src g =>
      simp only [Run.resume, hcalm rfl (fun _ h' => by cases h'), Bool.false_eq_true, ↓reduceIte]
      exact h.loaderDatabases i o hi fun g' => by rw [hph]; intro h; cases h
    | database l d =>
      simp only [Run.resume]
      split
      · exact h.finish i _ (Role.of_not_loader (hl rfl))
      · exact h.databaseTables i l d o hi (hl rfl)
    | _ => exact h
  | gotColumns o =>
    cases ρ with
    | columns l d t =>
      simp only [Run.resume]
      split
      · exact h.finish i _ (Role.of_not_loader (hl rfl))
      · exact h.columnsFetched i l d t o (hl rfl)
    | _ => exact h

/-- **A safe step keeps the invariant**: a loader steps cancelled only when its own aborting
group cancelled it. -/
theorem Guarded.stepTask (h : r.Shielded) (i : Nat) (thrown : Bool)
    (he : r.SafeEvent (.step i thrown)) : (r.stepTask i thrown).Shielded := by
  rw [stepTask_eq]
  split
  · exact h
  · next hend =>
    have hunend : (r.task i).ending = none := by simpa using hend
    have h₁ : (r.setTask i fun t => { t with mustCancel := false, waitsOn := none }).Shielded :=
      h.setTask i _ rfl id (h.ended i) (fun hm => by cases hm) (fun _ _ _ hp => hp)
        (fun g hp => ⟨(h.owns i g hp).1, (h.owns i g hp).2, fun hl => h.inside i g hl hp⟩)
        (fun _ hw => by cases hw) fun _ hf => .inl hf
    have hst : ((r.setTask i fun t => { t with mustCancel := false, waitsOn := none }).task i).role =
        (r.task i).role ∧
        ((r.setTask i fun t => { t with mustCancel := false, waitsOn := none }).task i).phase =
        (r.task i).phase := by
      rw [task_setTask]
      split <;> exact ⟨rfl, rfl⟩
    refine h₁.resume i _ _ _ hst.1 hst.2 fun hl ht => ?_
    -- the cancel comes from the event or from a mark, and either is the loader's own group's
    obtain ⟨g, hp, ha⟩ : r.ByOwnGroup i := by
      rcases Bool.or_eq_true_iff.1 ht with ht | hm
      · subst ht
        obtain ⟨-, hb⟩ := he
        exact hb hl hunend
      · exact h.marked i hl hunend hm
    exact ⟨g, hp, ha⟩

theorem owner_abort (g g' : Nat) : ((r.abort g).group g').owner = (r.group g').owner := by
  rw [group_eq_of_groups (abort_groups r), owner_setGroup (F := fun x => { x with aborting := true })
    fun _ => rfl]

theorem groups_size_abort (g : Nat) : (r.abort g).groups.size = r.groups.size := by
  simp [abort_groups]

theorem aborting_abort {g : Nat} (hg : g < r.groups.size) : ((r.abort g).group g).aborting = true := by
  rw [group_eq_of_groups (abort_groups r), group_setGroup_self r _ hg]

/-- Cancelling the owner of an aborting group keeps the invariant: an owner that is a loader
and has not ended checks the group. -/
theorem Guarded.cancelOwner (h : r.Shielded) (g : Nat)
    (ha : g < r.groups.size → (r.group g).aborting = true) :
    (r.cancelTask (r.group g).owner).Shielded := by
  refine h.cancelTask _ fun hl hn => ?_
  by_cases hg : g < r.groups.size
  · exact ⟨g, (h.checks g).2 (by simp) hl hn, ha hg⟩
  · -- past the groups the owner is the client's default
    rw [group_of_size_le r (Nat.le_of_not_lt hg)] at hl
    exact absurd hl (by rw [show (default : Group).owner = 0 from rfl, h.client.2]; decide)

/-- **A group noting a member's end keeps the invariant**: on the first failure the group
aborts and cancels its owner, and an owner that is a loader checks the group, now
aborting. -/
theorem Guarded.childDone (h : r.Shielded) (g c : Nat) : (r.childDone g c).Shielded := by
  rw [childDone_eq]
  have h₀ := h.updateGroup g (fun x => { x with live := x.live.erase c }) (fun _ => rfl)
    (fun _ _ hx => List.mem_of_mem_erase hx) (fun _ => id) fun _ => rfl
  have h₁ : (r.noteLive g c).Shielded := by
    rcases noteLive_cases r (g := g) (c := c) with heq | ⟨f, heq⟩ <;> rw [heq]
    · exact h₀
    · exact h₀.settle f _ fun hc => by cases hc
  unfold Run.noteFailure
  split
  · next fl _ =>
    dsimp only
    have h₂ := h₁.updateGroup g (fun x => { x with errors := x.errors ++ [fl] }) (fun _ => rfl)
      (fun _ _ hx => hx) (fun _ => id) fun _ => rfl
    have hown₂ : (((r.noteLive g c).setGroup g fun x => { x with errors := x.errors ++ [fl] }).group
        g).owner = ((r.setGroup g fun x => { x with live := x.live.erase c }).group g).owner := by
      rw [owner_setGroup (F := fun x => { x with errors := x.errors ++ [fl] }) fun _ => rfl,
        group_eq_of_groups (noteLive_groups r)]
    generalize (r.noteLive g c).setGroup g (fun x => { x with errors := x.errors ++ [fl] }) = r₂
      at h₂ hown₂
    split
    · have h₃ := (h₂.abort g).updateGroup g (fun x => { x with ownerCancelled := true })
        (fun _ => rfl) (fun _ _ hx => hx) (fun _ => id) fun _ => rfl
      -- the owner cancelled is the group's owner, and the group is now aborting
      have hown : (((r₂.abort g).setGroup g fun x => { x with ownerCancelled := true }).group
          g).owner = ((r.setGroup g fun x => { x with live := x.live.erase c }).group g).owner := by
        rw [owner_setGroup (F := fun x => { x with ownerCancelled := true }) fun _ => rfl,
          owner_abort, hown₂]
      rw [← hown]
      refine h₃.cancelOwner g fun hg => ?_
      rw [group_setGroup_self _ _ (by simpa using hg)]
      exact aborting_abort (by simpa [groups_size_abort] using hg)
    · exact h₂
  · exact h₁

/-- A relay settles an outcome that wakes no loader, so a cancelled ending it hands on
cancels no loader. -/
theorem Guarded.relay (h : r.Shielded) (l f : Nat) (hf : r.WakesNoLoader f) :
    (r.handle (.relay l f)).Shielded := by
  obtain ⟨w, hw, hlt, hl⟩ := hf
  simp only [Run.handle]
  split
  · refine h.settle f _ fun _ w' hw' => ?_
    rw [hw, List.mem_singleton] at hw'
    subst hw'
    exact ⟨hlt, Role.of_not_loader hl⟩
  · exact h.settle f _ fun hc => by cases hc
  · exact h

/-! ## Runs -/

/-- **Every turn keeps the invariant.** -/
theorem Shielded.handle (h : r.Shielded) {e : Event} {rest : List Event} (hq : r.queue = e :: rest) :
    (({ r with queue := rest } : Run).handle e).Shielded := by
  have he : r.SafeEvent e := h.queue e (by rw [hq]; exact List.mem_cons_self)
  have h₀ : ({ r with queue := rest } : Run).Shielded := h.pop hq
  cases e with
  | step i thrown => exact h₀.stepTask i thrown he
  | childDone g c => exact h₀.childDone g c
  | forget n l =>
    simp only [Run.handle]
    split
    · exact h₀.setCache _
    · exact h₀
  | relay l f => exact h₀.relay l f he

theorem Shielded.turn (h : r.Shielded) : r.turn.Shielded := by
  unfold Run.turn
  split
  · exact h
  · next e rest hq => exact h.handle hq

/-- **Every state of a run from a shielded one is shielded.** -/
theorem Shielded.drain (h : r.Shielded) (k : Nat) : (Run.drain k r).Shielded := by
  induction k generalizing r with
  | zero => exact h
  | succ k ih =>
    rw [drain_succ]
    exact ih h.turn

/-- A plan starts shielded: its client is its only task, and nothing waits or is cancelled. -/
theorem Shielded.start (w : World) (plan : List Plan) : (Run.start w plan).Shielded := by
  -- every task of the start is the client, waiting on nothing and checking no group
  have htask : ∀ j, ((Run.start w plan).task j).role = .client ∧
      (∀ g, ((Run.start w plan).task j).phase ≠ .grouped g) ∧
      ((Run.start w plan).task j).waitsOn = none ∧ ((Run.start w plan).task j).callbacks = [] :=
    fun j => by
      unfold task Run.start
      cases j with
      | zero => exact ⟨rfl, fun _ h => (by cases h), rfl, rfl⟩
      | succ j => exact ⟨rfl, fun _ h => (by cases h), rfl, rfl⟩
  have hgroup : ∀ g, (Run.start w plan).group g = default := fun g => group_of_size_le _ (by simp [Run.start])
  have hl : ∀ j, ((Run.start w plan).task j).role.isLoader = false := fun j => by
    rw [(htask j).1]; rfl
  refine ⟨⟨by simp [Run.start], (htask 0).1⟩, fun l h => Role.of_not_loader (hl l) h,
    fun l h => Role.of_not_loader (hl l) h, fun e he => ?_, fun l g h => Role.of_not_loader (hl l) h,
    fun i g hp => absurd hp ((htask i).2.1 g), fun g => ?_, fun g c hc => ?_,
    fun m f hw => ?_, fun c hc => ?_, fun m f hc => ?_⟩
  · simp only [Run.start, List.mem_singleton] at he
    subst he
    trivial
  · rw [hgroup]
    exact ⟨show 0 < 1 from Nat.one_pos, fun _ h => Role.of_not_loader (hl _) h⟩
  · rw [hgroup] at hc
    cases hc
  · rw [(htask m).2.2.1] at hw
    cases hw
  · simp [Run.start] at hc
  · rw [(htask m).2.2.2] at hc
    cases hc

/-- **No loader ends cancelled**, whichever callers a plan cancels: at every state of the
run of a plan, a loader's ending is not a cancel. -/
theorem Shielded.loader_not_cancelled (w : World) (plan : List Plan) (k l : Nat)
    (hl : ((Run.drain k (Run.start w plan)).task l).role.isLoader = true) :
    ((Run.drain k (Run.start w plan)).task l).ending ≠ some .cancelled :=
  ((Shielded.start w plan).drain k).ended l hl

end Run

end SqlAssist.Schema
