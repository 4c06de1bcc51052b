import SqlAssist.Proofs.Schema.Updates
import SqlAssist.Proofs.Schema.Sources

/-!
# Every run ends within its budget

`World.perform` runs a plan for as many turns as `Run.turns` counts for the first state.
This file shows that the count is enough: handling an event lowers the count by at least
one, so a run whose count fits in its fuel empties its queue
(`Run.drain_queue_nil`).

## The accounting

`Run.turns` adds up four kinds of entries, each reading only its own record:

* a queued event counts two turns (a forget one);
* a task that has not ended counts what its phase may still do (`Task.phaseTurns`), the
  events its callbacks will queue, and for a caller the wake its client may still ask
  of it;
* a pending outcome counts a step for each waiter, less the one turn of the event that
  settles it;
* a group that is not aborting counts one cancel per live member and one for its owner.

So each primitive update has an exact effect on the count (`turns_setTask`,
`turns_spawn`, `turns_finish`, ...), and each handler is an inequality assembled from
them.  Two facts about the run are needed on the way:

* **Bounded sources** (`Run.Bounded`): no source of the world answers more items than the
  width the budget was computed for.  Asking keeps a source's width, so this holds all
  along a run.
* **A ready client** (`Run.ClientReady`): when the client takes its turn, every caller it
  may wait on has ended or has not been asked to wake anyone yet.  A caller counts the
  wake it may be asked for; asking twice would be unpaid.

## Shape of the handler bounds

A handler that moves task `i` out of its phase is bounded as
`turns after + phase turns of i ≤ turns before + what the phase had budgeted`, so the
caller of the handler cancels the phase's own count against the budget it was given.
-/

namespace SqlAssist.Schema

/-! ## Turns of one task -/

@[simp] theorem Callback.turns_event (i : Nat) (cb : Callback) : (cb.event i).turns = cb.turns := by
  cases cb <;> rfl

/-- The turns a caller keeps for the wake its client may ask of it. -/
def Task.wakeTurns (t : Task) : Nat :=
  match t.role with
  | .caller .. => if t.callbacks.any (· matches .wake _) then 0 else 2
  | _ => 0

/-- The turns of the events a task's callbacks queue when it ends. -/
def Task.callbackTurns (t : Task) : Nat := (t.callbacks.map Callback.turns).sum

section TaskTurns

variable (K : Nat) {t : Task}

@[simp] theorem Task.turns_of_ending {e : Ending} (h : t.ending = some e) : t.turns K = 0 := by
  simp [Task.turns, h]

theorem Task.turns_of_running (h : t.ending = none) :
    t.turns K = t.phaseTurns K + t.callbackTurns + t.wakeTurns := by
  unfold Task.turns
  rw [h]
  rfl

/-- The turns of a task read nothing but its standing. -/
theorem Task.turns_eq_of_standing {t' : Task} (h : t'.standing = t.standing) :
    t'.turns K = t.turns K := by
  simp only [Task.standing, Prod.mk.injEq] at h
  obtain ⟨hr, hp, he, hc⟩ := h
  simp only [Task.turns, Task.phaseTurns, hr, hp, he, hc]

theorem Task.wakeTurns_eq_of_standing {t' : Task} (h : t'.standing = t.standing) :
    t'.wakeTurns = t.wakeTurns := by
  simp only [Task.standing, Prod.mk.injEq] at h
  simp only [Task.wakeTurns, h.1, h.2.2.2]

/-- The turns of a task's phase read nothing but its standing. -/
theorem Task.phaseTurns_eq_of_standing {t' : Task} (h : t'.standing = t.standing) :
    t'.phaseTurns K = t.phaseTurns K := by
  simp only [Task.standing, Prod.mk.injEq] at h
  simp only [Task.phaseTurns, h.1, h.2.1]

theorem Task.ending_eq_of_standing {t' : Task} (h : t'.standing = t.standing) :
    t'.ending = t.ending := by
  simp only [Task.standing, Prod.mk.injEq] at h
  exact h.2.2.1

/-- A caller waiting on a shared load has used up its phase's turns. -/
@[simp] theorem Task.phaseTurns_shielded (f : Nat) (w : Option Nat) :
    ({ t with phase := .shielded f, waitsOn := w } : Task).phaseTurns K = 0 := by
  cases t.role <;> simp [Task.phaseTurns]

/-- A client waiting on its callers has used up its phase's turns. -/
@[simp] theorem Task.phaseTurns_awaiting (cs : List Nat) :
    ({ t with phase := .awaiting cs } : Task).phaseTurns K = 0 := by
  cases t.role <;> simp [Task.phaseTurns]

/-- A task waiting on a group has used up its phase's turns, whatever its role. -/
@[simp] theorem Task.phaseTurns_grouped (g : Nat) (f : Option Nat) :
    ({ t with phase := .grouped g, waitsOn := f } : Task).phaseTurns K = 0 := by
  cases t.role <;> simp [Task.phaseTurns]

/-- A relay added to a running task counts the event it will queue. -/
theorem Task.turns_addRelay (he : t.ending = none) (f : Nat) :
    ({ t with callbacks := t.callbacks ++ [.relay f] } : Task).turns K = t.turns K + 2 := by
  rw [Task.turns_of_running K he,
    Task.turns_of_running K (t := { t with callbacks := t.callbacks ++ [.relay f] }) he]
  have hwake : ({ t with callbacks := t.callbacks ++ [.relay f] } : Task).wakeTurns =
      t.wakeTurns := by
    cases hr : t.role <;> simp [Task.wakeTurns, hr]
  simp only [Task.callbackTurns, List.map_append, List.map_cons, List.map_nil, List.sum_append,
    List.sum_cons, List.sum_nil, Callback.turns] at hwake ⊢
  rw [hwake]
  simp only [Task.phaseTurns]
  omega

/-- A wake asked of a caller that had not been asked for one spends the turns it kept. -/
theorem Task.turns_addWake (he : t.ending = none) (hw : t.wakeTurns = 2) (j : Nat) :
    ({ t with callbacks := t.callbacks ++ [.wake j] } : Task).turns K = t.turns K := by
  rw [Task.turns_of_running K he,
    Task.turns_of_running K (t := { t with callbacks := t.callbacks ++ [.wake j] }) he]
  have hwake : ({ t with callbacks := t.callbacks ++ [.wake j] } : Task).wakeTurns = 0 := by
    cases hr : t.role <;> simp_all [Task.wakeTurns]
  simp only [Task.callbackTurns, List.map_append, List.map_cons, List.map_nil, List.sum_append,
    List.sum_cons, List.sum_nil, Callback.turns] at hwake ⊢
  rw [hwake, hw]
  simp only [Task.phaseTurns]
  omega

end TaskTurns

namespace Run

variable (K : Nat) (r : Run) {i j : Nat}

/-! ## Sums over an array -/

/-- Updating one entry of an array changes the sum of a measure of its entries by the
change at that entry. -/
theorem sum_map_modify {α : Type} (xs : Array α) (h : i < xs.size) (f : α → α) (g : α → Nat) :
    ((xs.modify i f).toList.map g).sum + g xs[i] = (xs.toList.map g).sum + g (f xs[i]) := by
  have hl : i < xs.toList.length := by simpa using h
  have whole : (xs.toList.map g).sum =
      ((xs.toList.take i).map g).sum + g xs[i] + ((xs.toList.drop (i + 1)).map g).sum := by
    conv => lhs; rw [← List.take_append_drop i xs.toList, ← List.getElem_cons_drop hl]
    simp only [List.map_append, List.map_cons, List.sum_append, List.sum_cons,
      Array.getElem_toList]
    omega
  rw [Array.toList_modify, List.modify_eq_take_cons_drop hl, whole]
  simp only [List.map_append, List.map_cons, List.sum_append, List.sum_cons, Array.getElem_toList]
  omega

/-! ## Primitive updates -/

@[simp] theorem turns_enqueue (e : Event) : (r.enqueue e).turns K = r.turns K + e.turns := by
  simp only [turns, enqueue, List.map_append, List.map_cons, List.map_nil, List.sum_append,
    List.sum_cons, List.sum_nil]
  omega

theorem turns_setTask (h : i < r.tasks.size) (f : Task → Task) :
    (r.setTask i f).turns K + (r.task i).turns K = r.turns K + (f (r.task i)).turns K := by
  have hsum := sum_map_modify r.tasks h f (Task.turns K)
  rw [task_of_lt r h]
  simp only [turns, setTask] at hsum ⊢
  omega

/-- An update that keeps every task's standing keeps the count. -/
theorem turns_setTask_of_standing (f : Task → Task) (hf : ∀ t, (f t).standing = t.standing) :
    (r.setTask i f).turns K = r.turns K := by
  by_cases h : i < r.tasks.size
  · have := turns_setTask K r h f
    rw [Task.turns_eq_of_standing K (hf _)] at this
    omega
  · rw [setTask_of_size_le r f (Nat.le_of_not_lt h)]

theorem turns_setGroup {g : Nat} (h : g < r.groups.size) (f : Group → Group) :
    (r.setGroup g f).turns K + (r.group g).turns = r.turns K + (f (r.group g)).turns := by
  have hsum := sum_map_modify r.groups h f Group.turns
  have hg : r.group g = r.groups[g] := by simp [group, h]
  rw [hg]
  simp only [turns, setGroup] at hsum ⊢
  omega

/-- An update that keeps every group's count keeps the run's. -/
theorem turns_setGroup_of_turns {g : Nat} (f : Group → Group) (hf : ∀ x, (f x).turns = x.turns) :
    (r.setGroup g f).turns K = r.turns K := by
  by_cases h : g < r.groups.size
  · have := turns_setGroup K r h f
    rw [hf] at this
    omega
  · rw [setGroup_of_size_le r f (Nat.le_of_not_lt h)]

@[simp] theorem turns_setStore {l : Nat} (f : Store → Store) : (r.setStore l f).turns K = r.turns K :=
  rfl
@[simp] theorem turns_setCache (c : Cache → Cache) : (r.setCache c).turns K = r.turns K := rfl
@[simp] theorem turns_note (level : Log.Level) (msg : String) :
    (r.note level msg).turns K = r.turns K := rfl

@[simp] theorem turns_ask {α : Type} (src : String) (q : Source → Source × Reply α) (nothing : α) :
    (r.ask src q nothing).1.turns K = r.turns K := by
  simp [turns]

theorem turns_spawn (role : Role) (cbs : List Callback) (ph : Phase) :
    (r.spawn role cbs ph).1.turns K =
      r.turns K + 2 + Task.turns K { role, phase := ph, callbacks := cbs } := by
  simp only [turns, spawn_queue, spawn_tasks, spawn_futs, spawn_groups, Array.toList_push,
    List.map_append, List.map_cons, List.map_nil, List.sum_append, List.sum_cons, List.sum_nil,
    Event.turns]
  omega

theorem turns_newFut (w : Nat) : (r.newFut w).1.turns K = r.turns K + 1 := by
  simp only [turns, newFut_queue, newFut_tasks, newFut_futs, newFut_groups, Array.toList_push,
    List.map_append, List.map_cons, List.map_nil, List.sum_append, List.sum_cons, List.sum_nil,
    Fut.turns, List.length_singleton]
  omega

/-- Appending events to the queue adds their turns. -/
theorem turns_append_queue (es : List Event) :
    ({ r with queue := r.queue ++ es } : Run).turns K = r.turns K + (es.map Event.turns).sum := by
  simp only [turns, List.map_append, List.sum_append]
  omega

/-- Ending a task trades its count for the events its callbacks queue. -/
theorem turns_finish (h : i < r.tasks.size) (e : Ending) :
    (r.finish i e).turns K + (r.task i).turns K = r.turns K + (r.task i).callbackTurns := by
  have hset := turns_setTask K r h fun t => { t with ending := some e, waitsOn := none }
  have hended : Task.turns K { r.task i with ending := some e, waitsOn := none } = 0 :=
    Task.turns_of_ending K rfl
  have hqueue := turns_append_queue K (r.setTask i fun t => { t with ending := some e, waitsOn := none })
    ((r.task i).callbacks.map (Callback.event i))
  have hcb : (((r.task i).callbacks.map (Callback.event i)).map Event.turns).sum =
      (r.task i).callbackTurns := by
    simp [Task.callbackTurns, Function.comp_def]
  rw [finish_eq]
  simp only [setTask_queue] at hqueue
  dsimp only at hqueue hset hended ⊢
  omega

/-- Ending a running task frees at least the turns of its phase. -/
theorem turns_finish_le (h : i < r.tasks.size) (he : (r.task i).ending = none) (e : Ending) :
    (r.finish i e).turns K + (r.task i).phaseTurns K ≤ r.turns K := by
  have := turns_finish K r h e
  rw [Task.turns_of_running K he] at this
  omega

/-! ## Settling and cancelling -/

/-- Settling an outcome costs at most the one turn its settling event has paid for: the
steps it queues for its waiters are what the pending outcome had counted. -/
theorem turns_settle {f : Nat} {st : FutState}
    (hst : ∀ x : Fut, ({ x with state := st } : Fut).turns = 0) :
    (r.settle f st).turns K ≤ r.turns K + 1 := by
  by_cases hp : r.isPending f = true
  · have hpend := (isPending_iff r).1 hp
    unfold settle
    rw [hpend]
    dsimp only
    rw [foldl_enqueue, turns_append_queue]
    -- every waiter is woken by one step of two turns
    have hsteps : ∀ b, (((r.fut f).waiters.map fun w => Event.step w b).map Event.turns).sum =
        2 * (r.fut f).waiters.length := by
      intro b
      simp [Event.turns, Function.comp_def, List.sum_replicate, Nat.mul_comm]
    rw [hsteps]
    by_cases hf : f < r.futs.size
    · -- the pending outcome counted those steps, less one
      have hsum := sum_map_modify r.futs hf (fun x => { x with state := st }) Fut.turns
      have hfut : r.fut f = r.futs[f] := by simp [fut, hf]
      have hold : Fut.turns r.futs[f] = 2 * (r.fut f).waiters.length - 1 := by
        rw [← hfut]; simp [Fut.turns, hpend]
      rw [hst] at hsum
      simp only [turns] at hsum ⊢
      omega
    · -- past the end there is no outcome to settle and no waiter to wake
      have hnone : (r.fut f).waiters = [] := by rw [fut_of_size_le r (Nat.le_of_not_lt hf)]; rfl
      rw [modify_of_size_le _ (Nat.le_of_not_lt hf), hnone]
      simp [turns]
  · rw [settle_of_not_pending r (by simpa using hp)]
    omega

theorem turns_settle_cancelled (f : Nat) : (r.settle f .cancelled).turns K ≤ r.turns K + 1 :=
  turns_settle K r fun _ => rfl

theorem turns_settle_resolved (f : Nat) (e : Ending) :
    (r.settle f (.resolved e)).turns K ≤ r.turns K + 1 :=
  turns_settle K r fun _ => rfl

/-- Cancelling a task costs at most one turn: the step that wakes it from its outcome. -/
theorem turns_cancelTask : (r.cancelTask i).turns K ≤ r.turns K + 1 := by
  rcases cancelTask_cases r (i := i) with h | ⟨f, -, h⟩ | h
  · rw [h]; omega
  · rw [h]; exact turns_settle_cancelled K r f
  · rw [h, turns_setTask_of_standing K r (fun t => { t with mustCancel := true }) fun _ => rfl]
    omega

theorem turns_foldl_cancelTask (l : List Nat) :
    (l.foldl (fun r t => r.cancelTask t) r).turns K ≤ r.turns K + l.length := by
  induction l generalizing r with
  | nil => simp
  | cons c l ih =>
    have hstep := turns_cancelTask K r (i := c)
    have hrest := ih (r.cancelTask c)
    simp only [List.foldl_cons, List.length_cons]
    omega

/-- Aborting a group spends the cancels it had counted for its live members. -/
theorem turns_abort {g : Nat} (h : g < r.groups.size) :
    (r.abort g).turns K + (r.group g).turns ≤ r.turns K + (r.group g).live.length := by
  have hset := turns_setGroup K r h fun x => { x with aborting := true }
  have hspent : Group.turns { r.group g with aborting := true } = 0 := by simp [Group.turns]
  have hlive : ((r.setGroup g fun x => { x with aborting := true }).group g).live =
      (r.group g).live := by
    rw [group_setGroup_self _ _ h]
  have hcancel := turns_foldl_cancelTask K (r.setGroup g fun x => { x with aborting := true })
    ((r.setGroup g fun x => { x with aborting := true }).group g).live
  rw [hlive] at hcancel
  unfold abort
  dsimp only at hset hspent hcancel ⊢
  rw [hlive]
  omega

/-! ## Noting the end of a member -/

/-- Dropping a live member and resolving the owner's wait costs at most one turn. -/
theorem turns_noteLive (g c : Nat) : (r.noteLive g c).turns K ≤ r.turns K + 1 := by
  -- a group with fewer live members counts fewer cancels
  have h1 : (r.setGroup g fun x => { x with live := x.live.erase c }).turns K ≤ r.turns K := by
    by_cases hg : g < r.groups.size
    · have hset := turns_setGroup K r hg fun x => { x with live := x.live.erase c }
      have hle : Group.turns { r.group g with live := (r.group g).live.erase c } ≤
          (r.group g).turns := by
        have := List.length_erase_le (a := c) (l := (r.group g).live)
        simp only [Group.turns]
        split <;> omega
      dsimp only at hset hle
      omega
    · rw [setGroup_of_size_le r _ (Nat.le_of_not_lt hg)]
  rcases noteLive_cases r (g := g) (c := c) with h | ⟨f, h⟩
  · rw [h]
    omega
  · rw [h]
    have := turns_settle_resolved K (r.setGroup g fun x => { x with live := x.live.erase c }) f .ok
    omega

/-- Recording a failure costs nothing: the first one spends the group's own count on
aborting its members and cancelling its owner. -/
theorem turns_noteFailure {g : Nat} (hg : g < r.groups.size) (c : Nat) :
    (r.noteFailure g c (r.group g)).turns K ≤ r.turns K := by
  unfold noteFailure
  split
  · rename_i fl _
    -- a group's count does not read its failures
    have h3 := turns_setGroup_of_turns K r (g := g)
      (fun x => { x with errors := x.errors ++ [fl] }) fun _ => rfl
    dsimp only
    split
    · rename_i hflags
      simp only [Bool.and_eq_true, Bool.not_eq_eq_eq_not, Bool.not_true] at hflags
      generalize hr3 : r.setGroup g (fun x => { x with errors := x.errors ++ [fl] }) = r3 at h3
      have hsize3 : g < r3.groups.size := by rw [← hr3]; simpa using hg
      have hgrp3 : r3.group g = { r.group g with errors := (r.group g).errors ++ [fl] } := by
        rw [← hr3, group_setGroup_self _ _ hg]
      -- the group counted one cancel per live member and one for its owner
      have hcount : (r3.group g).turns = (r3.group g).live.length + 1 := by
        simp [hgrp3, Group.turns, hflags]
      have h4 := turns_abort K r3 hsize3
      have hsize4 : g < (r3.abort g).groups.size := by simpa [abort_groups] using hsize3
      have haborting : ((r3.abort g).group g).aborting = true := by
        have : (r3.abort g).group g = (r3.setGroup g fun x => { x with aborting := true }).group g := by
          simp only [group, abort_groups]
        rw [this, group_setGroup_self _ _ hsize3]
      have h5 := turns_setGroup K (r3.abort g) hsize4 fun x => { x with ownerCancelled := true }
      have hspent : Group.turns { (r3.abort g).group g with ownerCancelled := true } = 0 := by
        simp [Group.turns, haborting]
      have hspent' : ((r3.abort g).group g).turns = 0 := by simp [Group.turns, haborting]
      have h6 := turns_cancelTask K ((r3.abort g).setGroup g fun x => { x with ownerCancelled := true })
        (i := (r.group g).owner)
      dsimp only at h5 hspent ⊢
      omega
    · omega
  · omega

theorem turns_childDone (g c : Nat) : (r.childDone g c).turns K ≤ r.turns K + 1 := by
  rw [childDone_eq]
  by_cases hg : g < r.groups.size
  · have hgrp : (r.setGroup g fun x => { x with live := x.live.erase c }).group g =
        (r.noteLive g c).group g := by
      simp [group]
    rw [hgrp]
    have h1 := turns_noteLive K r g c
    have h2 := turns_noteFailure K (r.noteLive g c) (by simpa using hg) c
    omega
  · -- past the end of the groups nothing is noted, but a failure still cancels the owner
    -- that the default group names
    have hg' := Nat.le_of_not_lt hg
    have hlive : r.noteLive g c = r := by
      unfold noteLive
      simp only [setGroup_of_size_le r _ hg', group_of_size_le r hg']
      rfl
    rw [hlive, setGroup_of_size_le r _ hg', group_of_size_le r hg']
    unfold noteFailure
    split
    · simp only [setGroup_of_size_le r _ hg', abort_of_size_le r hg']
      exact turns_cancelTask K r
    · omega

/-! ## A new phase -/

/-- A new phase for a running task trades the turns of its old phase for those of the new
one. -/
theorem turns_setTask_phase (h : i < r.tasks.size) (he : (r.task i).ending = none)
    (f : Task → Task)
    (hf : ∀ t : Task, (f t).role = t.role ∧ (f t).ending = t.ending ∧ (f t).callbacks = t.callbacks) :
    (r.setTask i f).turns K + (r.task i).phaseTurns K = r.turns K + (f (r.task i)).phaseTurns K := by
  obtain ⟨hrole, hend, hcb⟩ := hf (r.task i)
  have hset := turns_setTask K r h f
  rw [Task.turns_of_running K he, Task.turns_of_running K (hend.trans he)] at hset
  have hwake : (f (r.task i)).wakeTurns = (r.task i).wakeTurns := by
    simp only [Task.wakeTurns, hrole, hcb]
  have hcbs : (f (r.task i)).callbackTurns = (r.task i).callbackTurns := by
    simp only [Task.callbackTurns, hcb]
  omega

/-- Ending task `i` after updates that leave the tasks and the count alone. -/
theorem turns_finish_le_of {r' : Run} (htasks : r'.tasks = r.tasks)
    (hturns : r'.turns K = r.turns K) (h : i < r.tasks.size) (he : (r.task i).ending = none)
    (e : Ending) : (r'.finish i e).turns K + (r.task i).phaseTurns K ≤ r.turns K := by
  have htask : r'.task i = r.task i := by simp [task, htasks]
  have := turns_finish_le K r' (by rw [htasks]; exact h) (by rw [htask]; exact he) e
  rwa [htask, hturns] at this

/-! ## The end of a loader -/

section Ending

variable (h : i < r.tasks.size) (he : (r.task i).ending = none)
include h he

theorem turns_loadFailed_le (f : LoadFailure) :
    (r.loadFailed i f).turns K + (r.task i).phaseTurns K ≤ r.turns K := by
  cases f with
  | stage e =>
    simp only [loadFailed]
    exact turns_finish_le_of K r (by simp) (by simp) h he _
  | misuse m => exact turns_finish_le K r h he _

theorem turns_publish_le : (r.publish i).turns K + (r.task i).phaseTurns K ≤ r.turns K := by
  unfold publish
  split
  · dsimp only
    split
    · exact turns_finish_le_of K r (by simp) (by simp) h he _
    · exact turns_finish_le_of K r (by simp) (by simp) h he _
  · exact turns_finish_le K r h he _

end Ending

/-! ## Groups -/

/-- A new group counts its members, a step and a cancel for each, and one cancel for its
owner. -/
theorem turns_startGroup (o : Nat) (roles : List Role) :
    (r.startGroup o roles).1.turns K =
      r.turns K + (roles.map fun role => Task.turns K { role, callbacks := [.childDone r.groups.size] }).sum +
        3 * roles.length + 1 := by
  rw [startGroup_eq]
  have hsteps : (((List.range' r.tasks.size roles.length).map fun c => Event.step c false).map
      Event.turns).sum = 2 * roles.length := by
    simp [Event.turns, Function.comp_def, List.sum_replicate, Nat.mul_comm]
  simp only [turns, List.map_append, List.sum_append, Array.toList_append,
    Array.toList_push, List.map_cons, List.map_nil, List.sum_cons, List.sum_nil, List.map_map] at hsteps ⊢
  simp only [Group.turns, Bool.false_eq_true, if_false, List.length_range', Bool.or_false]
  simp only [Function.comp_def] at hsteps ⊢
  omega

/-- An owner cancelled from outside spends the cancels its group had counted. -/
theorem turns_exitCancel (g : Nat) (thrown : Bool) : (r.exitCancel g thrown).turns K ≤ r.turns K := by
  unfold exitCancel
  split
  · rename_i hth
    simp only [Bool.and_eq_true, Bool.not_eq_eq_eq_not, Bool.not_true] at hth
    by_cases hg : g < r.groups.size
    · have hset := turns_setGroup_of_turns K r (g := g)
        (fun x => { x with outsideCancel := true }) fun _ => rfl
      have habort := turns_abort K (r.setGroup g fun x => { x with outsideCancel := true })
        (g := g) (by simpa using hg)
      rw [group_setGroup_self _ _ hg] at habort
      have hcount : Group.turns { r.group g with outsideCancel := true } ≥
          (r.group g).live.length := by
        simp [Group.turns, hth.2]
      dsimp only at habort hcount
      omega
    · rw [setGroup_of_size_le r _ (Nat.le_of_not_lt hg), abort_of_size_le r (Nat.le_of_not_lt hg)]
  · exact le_refl _

/-- The owner's decision costs at most the one turn of a new pending outcome. -/
theorem turns_groupResume (h : i < r.tasks.size) (he : (r.task i).ending = none) (g : Nat) :
    (r.groupResume i g).turns K + (r.task i).phaseTurns K ≤ r.turns K + 1 := by
  unfold groupResume
  dsimp only
  split
  · -- members remain: the owner waits on a new outcome, its phase spent
    have hfut := turns_newFut K r i
    have hgrp := turns_setGroup_of_turns K (r.newFut i).1 (g := g)
      (fun x => { x with fut := some r.futs.size }) fun _ => rfl
    have hset := turns_setTask_phase K
      ((r.newFut i).1.setGroup g fun x => { x with fut := some r.futs.size }) (i := i)
      (by simpa using h) (by simpa using he)
      (fun t => { t with phase := .grouped g, waitsOn := some r.futs.size })
      fun _ => ⟨rfl, rfl, rfl⟩
    simp only [task_setGroup, task_newFut, Task.phaseTurns_grouped] at hset
    simp only [newFut_snd]
    omega
  · have hfin : ∀ e, (r.finish i e).turns K + (r.task i).phaseTurns K ≤ r.turns K :=
      turns_finish_le K r h he
    split
    · exact Nat.le_succ_of_le (hfin _)
    · split
      · split
        · split
          · exact Nat.le_succ_of_le (turns_loadFailed_le K r h he _)
          · exact Nat.le_succ_of_le (hfin _)
        · exact Nat.le_succ_of_le (hfin _)
      · split
        · exact Nat.le_succ_of_le (turns_publish_le K r h he)
        · exact Nat.le_succ_of_le (hfin _)

/-- Checking a group costs at most one turn beyond the owner's phase. -/
theorem turns_groupExit (h : i < r.tasks.size) (he : (r.task i).ending = none)
    (g : Nat) (thrown : Bool) :
    (r.groupExit i g thrown).turns K + (r.task i).phaseTurns K ≤ r.turns K + 1 := by
  rw [groupExit_eq]
  have hstand : (((r.exitCancel g thrown).setGroup g fun x => { x with fut := none }).task i).standing =
      (r.task i).standing := by
    simp
  have h1 := turns_setGroup_of_turns K (r.exitCancel g thrown) (g := g)
    (fun x => { x with fut := none }) fun _ => rfl
  have h2 := turns_exitCancel K r g thrown
  have h3 := turns_groupResume K ((r.exitCancel g thrown).setGroup g fun x => { x with fut := none })
    (i := i) (by simpa using h) (by rw [Task.ending_eq_of_standing hstand]; exact he) g
  rw [Task.phaseTurns_eq_of_standing K hstand] at h3
  omega

/-! ## Bounded sources -/

/-- No source of the run's world answers more than `K` items to one question. -/
def Bounded (K : Nat) (r : Run) : Prop :=
  ∀ src s, r.world.sources.lookup src = some s → s.width ≤ K

section Bounded

variable {K} {r} (hB : r.Bounded K) (src : String)
include hB

theorem Bounded.length_askNames {d : Option Value} {xs : List Value}
    (h : (r.ask src (·.askNames d) []).2.outcome = .ok xs) : xs.length ≤ K := by
  cases hs : r.world.sources.lookup src with
  | none =>
    rw [ask_of_lookup_none r src _ _ hs] at h
    simp only [Except.ok.injEq] at h
    simp [← h]
  | some s =>
    rw [ask_of_lookup r src _ _ hs] at h
    exact (Source.length_le_width_of_askNames h).trans (hB src s hs)

end Bounded

theorem groupTurns_mono {m n n' : Nat} (h : n ≤ n') : groupTurns m n ≤ groupTurns m n' := by
  unfold groupTurns
  have := Nat.mul_le_mul_right (m + 3) h
  omega

/-! ## Fetching -/

section Fetch

variable (h : i < r.tasks.size) (he : (r.task i).ending = none) (src : String)
include h he

/-- A fetch costs no more than the task had counted for its phase: a reply that yields
puts the task back with the answer, whose phase counts two turns fewer; a reply that does
not goes on at once, at least two turns below. -/
theorem turns_fetchNames (hB : r.Bounded K) (d : Option Value)
    (go : Run → Except FetchError (List Value) → Run)
    (hyield : ∀ o : Except FetchError (List Value), (∀ xs, o = .ok xs → xs.length ≤ K) →
      ({ r.task i with phase := .gotNames o } : Task).phaseTurns K + 2 ≤ (r.task i).phaseTurns K)
    (hgo : ∀ (r' : Run) o, r'.tasks = r.tasks → (∀ xs, o = .ok xs → xs.length ≤ K) →
      (go r' o).turns K + 2 ≤ r'.turns K) :
    (r.fetchNames i src d go).turns K ≤ r.turns K := by
  have hbound : ∀ xs, (r.ask src (·.askNames d) []).2.outcome = .ok xs → xs.length ≤ K :=
    fun _ hx => hB.length_askNames src hx
  unfold fetchNames
  split
  rename_i r' reply hask
  have hr' : (r.ask src (·.askNames d) []).1 = r' := by rw [hask]
  have hreply : (r.ask src (·.askNames d) []).2 = reply := by rw [hask]
  have htasks : r'.tasks = r.tasks := by rw [← hr', ask_tasks]
  have hturns : r'.turns K = r.turns K := by rw [← hr', turns_ask]
  have htask : r'.task i = r.task i := by rw [← hr', task_ask]
  rw [hreply] at hbound
  split
  · -- the task resumes one turn later with the answer
    have hset := turns_setTask_phase K r' (i := i) (by rw [htasks]; exact h) (by rw [htask]; exact he)
      (fun t => { t with phase := .gotNames reply.outcome }) fun _ => ⟨rfl, rfl, rfl⟩
    have hy := hyield _ hbound
    rw [htask] at hset
    simp only [turns_enqueue, Event.turns]
    dsimp only at hset hy
    omega
  · have := hgo r' reply.outcome htasks hbound
    omega

theorem turns_fetchColumns (d t : Value)
    (go : Run → Except FetchError (List ColumnEntry) → Run)
    (hyield : ∀ o : Except FetchError (List ColumnEntry),
      ({ r.task i with phase := .gotColumns o } : Task).phaseTurns K + 2 ≤ (r.task i).phaseTurns K)
    (hgo : ∀ (r' : Run) o, r'.tasks = r.tasks → (go r' o).turns K + 2 ≤ r'.turns K) :
    (r.fetchColumns i src d t go).turns K ≤ r.turns K := by
  unfold fetchColumns
  split
  rename_i r' reply hask
  have hr' : (r.ask src (·.askColumns d t) []).1 = r' := by rw [hask]
  have htasks : r'.tasks = r.tasks := by rw [← hr', ask_tasks]
  have hturns : r'.turns K = r.turns K := by rw [← hr', turns_ask]
  have htask : r'.task i = r.task i := by rw [← hr', task_ask]
  split
  · have hset := turns_setTask_phase K r' (i := i) (by rw [htasks]; exact h) (by rw [htask]; exact he)
      (fun t => { t with phase := .gotColumns reply.outcome }) fun _ => ⟨rfl, rfl, rfl⟩
    have hy := hyield reply.outcome
    rw [htask] at hset
    simp only [turns_enqueue, Event.turns]
    dsimp only at hset hy
    omega
  · have := hgo r' reply.outcome htasks
    omega

end Fetch

/-! ## Loading databases, tables and columns -/

section Load

variable (h : i < r.tasks.size) (he : (r.task i).ending = none)
include h he

/-- Starting a group of members of `m` turns and a callback each, and checking on it at
once, fits in the turns of the group. -/
theorem turns_startGroup_groupExit (roles : List Role) (m : Nat)
    (hm : (roles.map fun role => Task.turns K { role, callbacks := [.childDone r.groups.size] }).sum =
      roles.length * (m + 2)) :
    ((r.startGroup i roles).1.groupExit i (r.startGroup i roles).2 false).turns K +
      (r.task i).phaseTurns K ≤ r.turns K + groupTurns (m + 2) roles.length := by
  have hsg := turns_startGroup K r i roles
  have htask := task_startGroup_of_lt r i roles h
  have hexit := turns_groupExit K (r.startGroup i roles).1 (i := i)
    (by rw [startGroup_size]; omega) (by rw [htask]; exact he) (r.startGroup i roles).2 false
  rw [htask] at hexit
  have hgt : groupTurns (m + 2) roles.length = roles.length * (m + 2) + 3 * roles.length + 2 := by
    unfold groupTurns
    rw [Nat.mul_add roles.length (m + 2) 3]
    omega
  omega

theorem turns_loaderDatabases_ok (dbs : List Value) :
    (r.loaderDatabases i (.ok dbs)).turns K + (r.task i).phaseTurns K ≤
      r.turns K + groupTurns (databaseTurns K + 2) dbs.length := by
  simp only [loaderDatabases]
  have hm : ((dbs.map (Role.database i)).map fun role => Task.turns K
      { role, callbacks := [.childDone (r.setStore i fun _ => { databases := dbs }).groups.size] }).sum =
      (dbs.map (Role.database i)).length * (databaseTurns K + 2) := by
    simp [Task.turns, Task.phaseTurns, Callback.turns, Function.comp_def]
  have := turns_startGroup_groupExit K (r.setStore i fun _ => { databases := dbs }) (i := i) h he _ _ hm
  rw [List.length_map] at this
  simpa using this

theorem turns_databaseTables_ok (l : Nat) (d : Value) (ts : List Value) :
    (r.databaseTables i l d (.ok ts)).turns K + (r.task i).phaseTurns K ≤
      r.turns K + groupTurns (columnsTurns + 2) ts.length := by
  simp only [databaseTables]
  split
  · exact Nat.le_add_right_of_le (turns_finish_le K r h he _)
  · split
    · exact Nat.le_add_right_of_le (turns_finish_le_of K r (by simp) (by simp) h he _)
    · let rs := r.setStore l fun s => { s with tables := KeyMap.put s.tables d ts }
      have hm : ((ts.map (Role.columns l d)).map fun role => Task.turns K
          { role, callbacks := [.childDone rs.groups.size] }).sum =
          (ts.map (Role.columns l d)).length * (columnsTurns + 2) := by
        simp [Task.turns, Task.phaseTurns, Callback.turns, Function.comp_def]
      have := turns_startGroup_groupExit K rs (i := i) h he _ _ hm
      rw [List.length_map] at this
      simpa [rs] using this

theorem turns_columnsFetched (l : Nat) (d t : Value) (o : Except FetchError (List ColumnEntry)) :
    (r.columnsFetched i l d t o).turns K + (r.task i).phaseTurns K ≤ r.turns K := by
  unfold columnsFetched
  split
  · exact turns_finish_le K r h he _
  · split
    · exact turns_finish_le K r h he _
    · exact turns_finish_le_of K r (by simp) (by simp) h he _

end Load

/-! ## Callers and the client -/

/-- Callbacks added to a task leave every task's phase and ending as they were. -/
@[simp] theorem phaseTurns_setTask_callbacks (l : Nat) (cs : List Callback) :
    ((r.setTask l fun t => { t with callbacks := t.callbacks ++ cs }).task j).phaseTurns K =
      (r.task j).phaseTurns K := by
  rw [task_setTask]; split <;> rfl

@[simp] theorem ending_setTask_callbacks (l : Nat) (cs : List Callback) :
    ((r.setTask l fun t => { t with callbacks := t.callbacks ++ cs }).task j).ending =
      (r.task j).ending := by
  rw [task_setTask]; split <;> rfl

/-- A caller the client may wait on once more: it has ended, or it keeps the turns of a
wake nobody has asked of it yet. -/
def Awaitable (r : Run) (c : Nat) : Prop :=
  (r.task c).ending.isSome = true ∨ (r.task c).wakeTurns = 2

theorem Awaitable.of_standing {r' : Run} {c : Nat} (h : (r'.task c).standing = (r.task c).standing)
    (ha : r.Awaitable c) : r'.Awaitable c := by
  unfold Awaitable
  rw [Task.ending_eq_of_standing h, Task.wakeTurns_eq_of_standing h]
  exact ha

section Callers

variable (h : i < r.tasks.size) (he : (r.task i).ending = none)
include h he

/-- Waiting on a load costs the new pending outcome and the relay that settles it. -/
theorem turns_shield (l : Nat) : (r.shield i l).turns K + (r.task i).phaseTurns K ≤ r.turns K + 3 := by
  simp only [shield]
  split
  · exact Nat.le_add_right_of_le (turns_finish_le K r h he _)
  · rename_i hl
    have h1 := turns_newFut K r i
    -- the relay counts the event it will queue
    have h2 : ((r.newFut i).1.setTask l fun t => { t with callbacks := t.callbacks ++ [.relay r.futs.size] }).turns K ≤
        (r.newFut i).1.turns K + 2 := by
      by_cases hls : l < r.tasks.size
      · have := turns_setTask K (r.newFut i).1 (i := l) (by simpa using hls)
          (fun t => { t with callbacks := t.callbacks ++ [.relay r.futs.size] })
        simp only [task_newFut] at this
        rw [Task.turns_addRelay K hl] at this
        omega
      · rw [setTask_of_size_le _ _ (by simpa using Nat.le_of_not_lt hls)]
        omega
    have h3 := turns_setTask_phase K
      ((r.newFut i).1.setTask l fun t => { t with callbacks := t.callbacks ++ [.relay r.futs.size] })
      (i := i) (by simpa using h) (by simpa using he)
      (fun t => { t with phase := .shielded r.futs.size, waitsOn := some r.futs.size })
      fun _ => ⟨rfl, rfl, rfl⟩
    simp only [phaseTurns_setTask_callbacks, task_newFut, Task.phaseTurns_shielded] at h3
    simp only [newFut_snd]
    omega

/-- A caller's start fits in its turns: a new loader with its forget callback, and the wait
on the load. -/
theorem turns_callerStart (name src : String) (refresh : Bool) :
    (r.callerStart i name src refresh).turns K + (r.task i).phaseTurns K ≤
      r.turns K + callerTurns K := by
  unfold callerStart
  -- the clear, if any, touches only the cache
  have ht1 : (if refresh then r.setCache (·.clear name) else r).tasks = r.tasks := by
    split <;> rfl
  have hturns1 : (if refresh then r.setCache (·.clear name) else r).turns K = r.turns K := by
    split <;> rfl
  dsimp only
  generalize (if refresh then r.setCache (·.clear name) else r) = r1 at ht1 hturns1 ⊢
  have htask1 : r1.task i = r.task i := by simp [task, ht1]
  have h1 : i < r1.tasks.size := by rw [ht1]; exact h
  split
  · -- joins the load in flight
    rename_i l _
    have := turns_shield K (r1.note .debug "Joining in-flight schema load") (i := i)
      (by simpa using h1) (by simpa [htask1] using he) l
    simp only [task_note, htask1, turns_note] at this
    unfold callerTurns
    omega
  · -- starts a load under the current generation
    have hsp := turns_spawn K r1 (.loader name src (r1.world.cache.generation name)) [.forget name] .start
    have hload : Task.turns K
        { role := .loader name src (r1.world.cache.generation name), callbacks := [.forget name] } =
        loaderTurns K + 1 := by
      simp [Task.turns, Task.phaseTurns, Callback.turns]
    have hsh := turns_shield K
      ((r1.spawn (.loader name src (r1.world.cache.generation name)) [.forget name]).1.setCache
        fun c => { c with inflight := setEntry c.inflight name r1.tasks.size })
      (i := i) (by simp; omega) (by simpa [task_spawn, Nat.ne_of_lt h1, htask1] using he) r1.tasks.size
    have hts : ((r1.spawn (.loader name src (r1.world.cache.generation name)) [.forget name]).1.setCache
        fun c => { c with inflight := setEntry c.inflight name r1.tasks.size }).task i = r.task i := by
      simp [task_spawn, Nat.ne_of_lt h1, htask1]
    rw [hts, turns_setCache, hsp, hload] at hsh
    simp only [spawn_snd]
    unfold callerTurns
    omega

/-- Waiting on callers in order costs nothing: a wake spends what its caller kept. -/
theorem turns_clientAwait (cs : List Nat) (hready : ∀ c ∈ cs, r.Awaitable c) :
    (r.clientAwait i cs).turns K + (r.task i).phaseTurns K ≤ r.turns K := by
  induction cs with
  | nil => exact turns_finish_le K r h he _
  | cons c cs ih =>
    unfold clientAwait
    split
    · exact ih fun c' hc' => hready c' (List.mem_cons_of_mem _ hc')
    · rename_i hc
      dsimp only
      have hw : (r.task c).wakeTurns = 2 := (hready c List.mem_cons_self).resolve_left hc
      have hce : (r.task c).ending = none := by simpa using hc
      have h2 : (r.setTask c fun t => { t with callbacks := t.callbacks ++ [.wake i] }).turns K =
          r.turns K := by
        by_cases hcs : c < r.tasks.size
        · have := turns_setTask K r hcs (fun t => { t with callbacks := t.callbacks ++ [.wake i] })
          rw [Task.turns_addWake K hce hw] at this
          omega
        · rw [setTask_of_size_le r _ (Nat.le_of_not_lt hcs)]
      have h3 := turns_setTask_phase K
        (r.setTask c fun t => { t with callbacks := t.callbacks ++ [.wake i] }) (i := i)
        (by simpa using h) (by simpa using he)
        (fun t => { t with phase := .awaiting (c :: cs) }) fun _ => ⟨rfl, rfl, rfl⟩
      simp only [phaseTurns_setTask_callbacks, Task.phaseTurns_awaiting] at h3
      omega

theorem turns_issueCaller (hclient : (r.task i).role = .client) (name src : String)
    (refresh : Bool) (rest : List Plan) :
    (r.issueCaller i (.caller name src refresh) rest).turns K + (r.task i).phaseTurns K =
      r.turns K + callerTurns K + 6 + (rest.map (Plan.turns K)).sum := by
  simp only [issueCaller]
  have hsp := turns_spawn K r (.caller name src refresh) [] .start
  have hcaller : Task.turns K { role := .caller name src refresh, phase := .start, callbacks := [] } =
      callerTurns K + 2 := by
    simp [Task.turns, Task.phaseTurns]
  -- the record of issued callers is not counted
  let r2 : Run := { (r.spawn (.caller name src refresh) []).1 with
    issued := (r.spawn (.caller name src refresh) []).1.issued ++ [some r.tasks.size] }
  have hturns2 : r2.turns K = (r.spawn (.caller name src refresh) []).1.turns K := rfl
  have htask2 : r2.task i = r.task i := by
    show (r.spawn (.caller name src refresh) []).1.task i = r.task i
    simp [task_spawn, Nat.ne_of_lt h]
  have h3 := turns_setTask_phase K r2 (i := i) (by simp [r2]; omega) (by rw [htask2]; exact he)
    (fun t => { t with phase := .issuing rest }) fun _ => ⟨rfl, rfl, rfl⟩
  have hphase : ({ r.task i with phase := .issuing rest } : Task).phaseTurns K =
      (rest.map (Plan.turns K)).sum := by
    simp [Task.phaseTurns, hclient]
  rw [htask2, hphase] at h3
  simp only [turns_enqueue, Event.turns, spawn_snd]
  dsimp only [r2] at h3 hturns2
  omega

/-- Issuing a plan costs what its entries count: a caller, the client's turn after it and
the wake it may ask. -/
theorem turns_clientIssue (hclient : (r.task i).role = .client) (ps : List Plan)
    (hready : ∀ c ∈ r.issued.filterMap id, r.Awaitable c) :
    (r.clientIssue i ps).turns K + (r.task i).phaseTurns K ≤
      r.turns K + (ps.map (Plan.turns K)).sum := by
  induction ps generalizing r with
  | nil => simpa [clientIssue] using turns_clientAwait K r h he _ hready
  | cons p ps ih =>
    cases p with
    | clear name =>
      -- a clear acts on the cache at once and costs nothing
      have := ih ({ r.setCache (·.clear name) with issued := r.issued ++ [none] }) h he hclient
        fun c hc => hready c (by simpa using hc)
      simp only [clientIssue, List.map_cons, List.sum_cons, Plan.turns, Nat.zero_add]
      exact this
    | cancel k =>
      -- a cancel wakes at most its caller, and keeps every task's standing
      have hstand : ∀ j, ((r.cancelIssued k).task j).standing = (r.task j).standing := fun j =>
        standing_cancelIssued r k
      have hturns : (r.cancelIssued k).turns K ≤ r.turns K + 1 := by
        rcases cancelIssued_cases r k with ⟨c, -, hc⟩ | hc <;> rw [hc]
        · exact turns_cancelTask K r
        · exact Nat.le_succ _
      -- the record of issued callers is not counted
      have hsame : ({ r.cancelIssued k with issued := r.issued ++ [none] } : Run).turns K =
          (r.cancelIssued k).turns K := rfl
      have := ih { r.cancelIssued k with issued := r.issued ++ [none] } (by simpa using h)
        (by rw [show ({ r.cancelIssued k with issued := r.issued ++ [none] } : Run).task i =
            (r.cancelIssued k).task i from rfl, Task.ending_eq_of_standing (hstand i)]; exact he)
        (by rw [← hclient]; exact congrArg Prod.fst (hstand i))
        fun c hc => Awaitable.of_standing r (hstand c) (hready c (by simpa using hc))
      rw [show ({ r.cancelIssued k with issued := r.issued ++ [none] } : Run).task i =
        (r.cancelIssued k).task i from rfl, Task.phaseTurns_eq_of_standing K (hstand i)] at this
      simp only [clientIssue, List.map_cons, List.sum_cons, Plan.turns]
      dsimp only at this hsame
      omega
    | load name src =>
      have := turns_issueCaller K r h he hclient name src false ps
      simp only [clientIssue, List.map_cons, List.sum_cons, Plan.turns]
      omega
    | refresh name src =>
      have := turns_issueCaller K r h he hclient name src true ps
      simp only [clientIssue, List.map_cons, List.sum_cons, Plan.turns]
      omega

end Callers

/-! ## The phases of loading -/

section Phases

variable {t : Task}

/-- The phase holding a loader's answer counts two turns fewer than its start. -/
theorem loader_gotNames_le {name src : String} {gen : Nat} (hrole : t.role = .loader name src gen)
    (o : Except FetchError (List Value)) (hb : ∀ xs, o = .ok xs → xs.length ≤ K) :
    ({ t with phase := .gotNames o } : Task).phaseTurns K + 2 ≤ loaderTurns K := by
  cases o with
  | error e => simp [Task.phaseTurns, hrole, loaderTurns]
  | ok dbs =>
    have := groupTurns_mono (m := databaseTurns K + 2) (hb dbs rfl)
    simp only [Task.phaseTurns, hrole, loaderTurns]
    omega

/-- The phase holding a database's tables counts two turns fewer than its start. -/
theorem database_gotNames_le {l : Nat} {d : Value} (hrole : t.role = .database l d)
    (o : Except FetchError (List Value)) (hb : ∀ xs, o = .ok xs → xs.length ≤ K) :
    ({ t with phase := .gotNames o } : Task).phaseTurns K + 2 ≤ databaseTurns K := by
  cases o with
  | error e => simp [Task.phaseTurns, hrole, databaseTurns]
  | ok ts =>
    have := groupTurns_mono (m := columnsTurns + 2) (hb ts rfl)
    simp only [Task.phaseTurns, hrole, databaseTurns]
    omega

end Phases

section Steps

variable (h : i < r.tasks.size) (he : (r.task i).ending = none)
include h he

/-- A loader's answer is handled within the turns of the phase that holds it. -/
theorem turns_loaderDatabases {name src : String} {gen : Nat}
    (hrole : (r.task i).role = .loader name src gen) (o : Except FetchError (List Value)) :
    (r.loaderDatabases i o).turns K + (r.task i).phaseTurns K ≤
      r.turns K + ({ r.task i with phase := .gotNames o } : Task).phaseTurns K := by
  cases o with
  | error e => exact Nat.le_add_right_of_le (turns_loadFailed_le K r h he _)
  | ok dbs => simpa [Task.phaseTurns, hrole] using turns_loaderDatabases_ok K r h he dbs

/-- A database's tables are handled within the turns of the phase that holds them. -/
theorem turns_databaseTables {l : Nat} {d : Value} (hrole : (r.task i).role = .database l d)
    (o : Except FetchError (List Value)) :
    (r.databaseTables i l d o).turns K + (r.task i).phaseTurns K ≤
      r.turns K + ({ r.task i with phase := .gotNames o } : Task).phaseTurns K := by
  cases o with
  | error e => exact Nat.le_add_right_of_le (turns_finish_le K r h he _)
  | ok ts => simpa [Task.phaseTurns, hrole] using turns_databaseTables_ok K r h he l d ts

/-- A loader's first step asks for the databases of its source. -/
theorem turns_loaderStart (hB : r.Bounded K) {name src : String} {gen : Nat}
    (hrole : (r.task i).role = .loader name src gen) (hphase : (r.task i).phase = .start) :
    ((r.note .info "Loading schema").fetchNames i src none
      fun r o => r.loaderDatabases i o).turns K ≤ r.turns K := by
  have hP : (r.task i).phaseTurns K = loaderTurns K := by simp [Task.phaseTurns, hrole, hphase]
  have := turns_fetchNames K (r.note .info "Loading schema") (i := i) (by simpa using h)
    (by simpa using he) src hB none (fun r o => r.loaderDatabases i o)
    (fun o hb => by simpa [hP] using loader_gotNames_le K hrole o hb)
    (fun r' o ht hb => by
      have ht' : r'.task i = r.task i := by simp [task, ht]
      have := turns_loaderDatabases K r' (by simpa [ht] using h) (by rw [ht']; exact he)
        (by rw [ht']; exact hrole) o
      have hle := loader_gotNames_le K hrole o hb
      rw [ht', hP] at this
      dsimp only at this hle
      omega)
  simpa using this

/-- A database's first step asks for its tables. -/
theorem turns_databaseStart (hB : r.Bounded K) {l : Nat} {d : Value}
    (hrole : (r.task i).role = .database l d) (hphase : (r.task i).phase = .start) :
    (r.fetchNames i (r.sourceOf l) (some d) fun r o => r.databaseTables i l d o).turns K ≤
      r.turns K := by
  have hP : (r.task i).phaseTurns K = databaseTurns K := by simp [Task.phaseTurns, hrole, hphase]
  refine turns_fetchNames K r h he _ hB _ _ (fun o hb => by simpa [hP] using database_gotNames_le K hrole o hb)
    fun r' o ht hb => ?_
  have ht' : r'.task i = r.task i := by simp [task, ht]
  have := turns_databaseTables K r' (by simpa [ht] using h) (by rw [ht']; exact he)
    (by rw [ht']; exact hrole) o
  have hle := database_gotNames_le K hrole o hb
  rw [ht', hP] at this
  dsimp only at this hle
  omega

/-- A column task's only step asks for the columns of its table. -/
theorem turns_columnsStart {l : Nat} {d tb : Value} (hrole : (r.task i).role = .columns l d tb)
    (hphase : (r.task i).phase = .start) :
    (r.fetchColumns i (r.sourceOf l) d tb fun r o => r.columnsFetched i l d tb o).turns K ≤
      r.turns K := by
  have hP : (r.task i).phaseTurns K = columnsTurns := by simp [Task.phaseTurns, hrole, hphase]
  refine turns_fetchColumns K r h he _ _ _ _ (fun o => by rw [hP]; simp [Task.phaseTurns, hrole, columnsTurns])
    fun r' o ht => ?_
  have ht' : r'.task i = r.task i := by simp [task, ht]
  have := turns_columnsFetched K r' (by simpa [ht] using h) (by rw [ht']; exact he) l d tb o
  rw [ht', hP] at this
  simp only [columnsTurns] at this
  omega

end Steps

/-! ## One step of a task -/

/-- The client `i` may take its turn: every caller it may wait on at that turn can be
waited on once more. -/
def ClientReady (r : Run) (i : Nat) : Prop :=
  match (r.task i).role, (r.task i).phase with
  | .client, .issuing _ => ∀ c ∈ r.issued.filterMap id, r.Awaitable c
  | .client, .awaiting cs => ∀ c ∈ cs, r.Awaitable c
  | _, _ => True

/-- A task past the end of the run is the default one, a client at its start: a step of it
does nothing. -/
theorem stepTask_of_size_le (h : r.tasks.size ≤ i) (thrown : Bool) : r.stepTask i thrown = r := by
  simp only [stepTask, task_of_size_le r h, setTask_of_size_le r _ h]
  rfl

theorem turns_stepTask (hB : r.Bounded K) (hready : r.ClientReady i) (thrown : Bool) :
    (r.stepTask i thrown).turns K ≤ r.turns K + 1 := by
  by_cases h : i < r.tasks.size
  swap
  · rw [stepTask_of_size_le r (Nat.le_of_not_lt h)]
    omega
  unfold stepTask
  dsimp only
  split
  · omega
  rename_i hrun
  have he : (r.task i).ending = none := by simpa using hrun
  -- the step clears the task's cancel mark and wait, which the count does not read
  have htask1 : (r.setTask i fun t => { t with mustCancel := false, waitsOn := none }).task i =
      { r.task i with mustCancel := false, waitsOn := none } := task_setTask_self r _ h
  have hturns1 := turns_setTask_of_standing K r (i := i)
    (fun t => { t with mustCancel := false, waitsOn := none }) fun _ => rfl
  have hstand1 : ∀ c, ((r.setTask i fun t => { t with mustCancel := false, waitsOn := none }).task c).standing =
      (r.task c).standing := by
    intro c; rw [task_setTask]; split <;> rfl
  have h1 : i < (r.setTask i fun t => { t with mustCancel := false, waitsOn := none }).tasks.size := by
    simpa using h
  have hworld1 := setTask_world r (i := i) (fun t => { t with mustCancel := false, waitsOn := none })
  have hissued1 := setTask_issued r (i := i) (fun t => { t with mustCancel := false, waitsOn := none })
  generalize r.setTask i (fun t => { t with mustCancel := false, waitsOn := none }) = r1
    at htask1 hturns1 hstand1 h1 hworld1 hissued1
  have he1 : (r1.task i).ending = none := by rw [htask1]; exact he
  have hrole1 : (r1.task i).role = (r.task i).role := by rw [htask1]
  have hphase1 : (r1.task i).phase = (r.task i).phase := by rw [htask1]
  have hP1 : (r1.task i).phaseTurns K = (r.task i).phaseTurns K :=
    Task.phaseTurns_eq_of_standing K (hstand1 i)
  have hB1 : r1.Bounded K := fun src s hs => hB src s (by rwa [hworld1] at hs)
  have hfin : ∀ e, (r1.finish i e).turns K ≤ r.turns K + 1 := fun e => by
    have := turns_finish_le K r1 h1 he1 e
    omega
  -- a task resumed cancelled ends cancelled, whatever it was doing
  have hthrown : ∀ x : Run, x.turns K ≤ r.turns K + 1 →
      (if (thrown || (r.task i).mustCancel) = true then r1.finish i .cancelled else x).turns K ≤
        r.turns K + 1 := by
    intro x hx
    split
    · exact hfin _
    · exact hx
  split
  · -- a client issuing the rest of its plan
    rename_i rest hrole hphase
    simp only [ClientReady, hrole, hphase] at hready
    have := turns_clientIssue K r1 h1 he1 (hrole1.trans hrole) rest fun c hc =>
      Awaitable.of_standing r (hstand1 c) (hready c (hissued1 ▸ hc))
    have hP : (r.task i).phaseTurns K = (rest.map (Plan.turns K)).sum := by
      simp [Task.phaseTurns, hrole, hphase]
    omega
  · -- a client waiting on its callers
    rename_i rest hrole hphase
    simp only [ClientReady, hrole, hphase] at hready
    have := turns_clientAwait K r1 h1 he1 rest fun c hc =>
      Awaitable.of_standing r (hstand1 c) (hready c hc)
    omega
  · -- a caller's start
    rename_i name src refresh hrole hphase
    refine hthrown _ ?_
    have := turns_callerStart K r1 h1 he1 name src refresh
    have hP : (r.task i).phaseTurns K = callerTurns K := by simp [Task.phaseTurns, hrole, hphase]
    omega
  · -- a caller woken from its wait on a shared load
    split
    · exact hfin _
    · exact hfin _
    · omega
  · -- a loader's start
    rename_i name src gen hrole hphase
    refine hthrown _ ?_
    have := turns_loaderStart K r1 h1 he1 hB1 (hrole1.trans hrole) (hphase1.trans hphase)
    omega
  · -- a loader resumed with its databases
    rename_i name src gen o hrole hphase
    refine hthrown _ ?_
    have := turns_loaderDatabases K r1 h1 he1 (hrole1.trans hrole) o
    have ht : ({ r1.task i with phase := .gotNames o } : Task) = r1.task i := by
      rw [← hphase, ← hphase1]
    rw [ht] at this
    omega
  · -- a database's start
    rename_i l d hrole hphase
    refine hthrown _ ?_
    have := turns_databaseStart K r1 h1 he1 hB1 (hrole1.trans hrole) (hphase1.trans hphase)
    omega
  · -- a database resumed with its tables
    rename_i l d o hrole hphase
    refine hthrown _ ?_
    have := turns_databaseTables K r1 h1 he1 (hrole1.trans hrole) o
    have ht : ({ r1.task i with phase := .gotNames o } : Task) = r1.task i := by
      rw [← hphase, ← hphase1]
    rw [ht] at this
    omega
  · -- a column task's start
    rename_i l d tb hrole hphase
    refine hthrown _ ?_
    have := turns_columnsStart K r1 h1 he1 (hrole1.trans hrole) (hphase1.trans hphase)
    omega
  · -- a column task resumed with its columns
    rename_i l d tb o hrole hphase
    refine hthrown _ ?_
    have := turns_columnsFetched K r1 h1 he1 l d tb o
    omega
  · -- an owner checking its group
    rename_i g _
    have := turns_groupExit K r1 h1 he1 g (thrown || (r.task i).mustCancel)
    omega
  · omega

/-! ## Handling events until the queue is empty -/

/-- Handling an event lowers the count by at least one turn beyond the event's own. -/
theorem turns_handle (hB : r.Bounded K) (e : Event)
    (hready : ∀ i thrown, e = .step i thrown → r.ClientReady i) :
    (r.handle e).turns K + 1 ≤ r.turns K + e.turns := by
  cases e with
  | step i thrown =>
    have := turns_stepTask K r hB (hready i thrown rfl) thrown
    simp only [handle, Event.turns]
    omega
  | childDone g c =>
    have := turns_childDone K r g c
    simp only [handle, Event.turns]
    omega
  | forget name l =>
    simp only [handle, Event.turns]
    split <;> simp
  | relay l f =>
    simp only [handle, Event.turns]
    split
    · have := turns_settle_cancelled K r f
      omega
    · rename_i e _ _
      have := turns_settle_resolved K r f e
      omega
    · omega

/-- Taking the front event off the queue takes its turns off the count. -/
theorem turns_pop {e : Event} {rest : List Event} (hq : r.queue = e :: rest) :
    ({ r with queue := rest } : Run).turns K + e.turns = r.turns K := by
  simp only [turns, hq, List.map_cons, List.sum_cons]
  omega

/-- **A drain empties the queue.**  Along a run that keeps an invariant which bounds its
sources and readies the client for its turns, a drain with at least the count in fuel
ends with an empty queue, the invariant still holding. -/
theorem drain_queue_nil {P : Run → Prop}
    (hP : ∀ r e rest, P r → r.queue = e :: rest → P ({ r with queue := rest }.handle e))
    (hB : ∀ r, P r → r.Bounded K)
    (hready : ∀ r i thrown rest, P r → r.queue = .step i thrown :: rest →
      ({ r with queue := rest } : Run).ClientReady i) :
    ∀ fuel r, P r → r.turns K ≤ fuel → (drain fuel r).queue = [] ∧ P (drain fuel r) := by
  intro fuel
  induction fuel with
  | zero =>
    intro r hr hfuel
    simp only [drain]
    -- a queued event counts at least one turn, which the empty fuel cannot pay
    cases hq : r.queue with
    | nil => exact ⟨rfl, hr⟩
    | cons e rest =>
      have := turns_pop K r hq
      have : 1 ≤ e.turns := by cases e <;> simp [Event.turns]
      omega
  | succ fuel ih =>
    intro r hr hfuel
    cases hq : r.queue with
    | nil =>
      simp only [drain, hq]
      exact ⟨trivial, hr⟩
    | cons e rest =>
      simp only [drain, hq]
      -- the handled event lowers the count below the fuel left
      have hlower := turns_handle K { r with queue := rest } (hB r hr) e
        fun i thrown he => hready r i thrown rest hr (he ▸ hq)
      have hpop := turns_pop K r hq
      exact ih _ (hP r e rest hr hq) (by omega)

end Run

end SqlAssist.Schema
