import SqlAssist.Schema.Run

/-!
# How a run's state changes

A run (`SqlAssist.Schema.Run`) keeps its tasks, pending outcomes and task groups in arrays
and changes them through a handful of primitive updates: `setTask`, `setGroup`,
`setStore`, `setCache`, `enqueue`, `note`, `ask`, `spawn`, `newFut`, `finish` and
`settle`.  Every handler is built from these, so this file says once what each of them
changes and what it leaves alone; later proofs cite these lemmas and never unfold the
updates.

## Reading an array entry

`Run.task i` reads task `i`, or a default task past the end of the array; `fut` and
`group` read likewise.  Updating an entry past the end changes nothing, so the lemmas
about updates carry the bound of the entry they update.

## The standing of a task

Cancelling a task only sets its flags (`mustCancel`, `waitsOn`) or settles the outcome
it waits on.  What a task is and where it stands (its role, phase, ending and callbacks,
together `Task.standing`) is therefore untouched by every cancel, and so by `abort`; the
turn budget of a task reads nothing else.

## Callbacks

`finish` queues one event per callback of the ending task, in order: `Callback.event`
names that event.
-/

namespace SqlAssist.Schema

/-- What a task is and where it stands: its role, phase, ending and callbacks. -/
def Task.standing (t : Task) : Role × Phase × Option Ending × List Callback :=
  (t.role, t.phase, t.ending, t.callbacks)

/-- The event a callback of task `i` queues when `i` ends. -/
def Callback.event (i : Nat) : Callback → Event
  | .childDone g => .childDone g i
  | .forget n => .forget n i
  | .relay f => .relay i f
  | .wake j => .step j false

/-! ## Association lists keyed by text -/

section Entries

variable {κ α : Type} [BEq κ] [LawfulBEq κ] [DecidableEq κ] (xs : List (κ × α)) (k k' : κ) (v : α)

theorem lookup_cons_ite (a : κ) (b : α) :
    ((a, b) :: xs).lookup k' = if k' = a then some b else xs.lookup k' := by
  by_cases h : k' = a
  · simp [h]
  · have hne : (k' == a) = false := by simpa using h
    simp [List.lookup_cons, hne, h]

/-- Setting an entry that is already there rewrites every entry of its key; others are
left alone. -/
theorem lookup_map_setEntry :
    (xs.map fun e => if e.1 == k then (k, v) else e).lookup k' =
      if k' = k then (if xs.any (·.1 == k) then some v else none) else xs.lookup k' := by
  induction xs with
  | nil => simp
  | cons e xs ih =>
    obtain ⟨a, b⟩ := e
    by_cases ha : a = k
    · subst ha
      by_cases hk : k' = a <;> simp_all [lookup_cons_ite]
    · have hne : (a == k) = false := by simpa using ha
      simp only [List.map_cons, hne, Bool.false_eq_true, if_false, lookup_cons_ite, ih,
        List.any_cons, Bool.false_or]
      by_cases hk : k' = k
      · subst hk
        simp [Ne.symm ha]
      · simp [hk]

@[simp] theorem lookup_setEntry :
    (setEntry xs k v).lookup k' = if k' = k then some v else xs.lookup k' := by
  unfold setEntry
  split
  · rw [lookup_map_setEntry]
    split <;> simp_all
  · rename_i hnone
    rw [List.lookup_append]
    by_cases hk : k' = k
    · subst hk
      have : xs.lookup k' = none := by
        simp only [List.any_eq_true, beq_iff_eq, not_exists, not_and] at hnone
        simp only [List.lookup_eq_none_iff, bne_iff_ne, ne_eq]
        intro p hp heq
        exact hnone p hp heq.symm
      simp [this]
    · cases h : xs.lookup k' <;> simp [hk]

end Entries

@[simp] theorem lookup_eraseKey {α : Type} (xs : List (String × α)) (k k' : String) :
    (eraseKey xs k).lookup k' = if k' = k then none else xs.lookup k' := by
  unfold eraseKey
  induction xs with
  | nil => simp
  | cons e xs ih =>
    obtain ⟨a, b⟩ := e
    by_cases ha : a = k
    · subst ha
      simp only [List.filter_cons, bne_self_eq_false, Bool.false_eq_true, if_false, ih,
        lookup_cons_ite]
      by_cases hk : k' = a <;> simp [hk]
    · have hne : (a != k) = true := by simpa using ha
      simp only [List.filter_cons, hne, if_true, ih, lookup_cons_ite]
      by_cases hk : k' = k
      · subst hk
        simp [Ne.symm ha]
      · simp [hk]


namespace Run

variable (r : Run) {i j : Nat}

/-! ## Reading entries -/

/-- Updating an entry past the end of an array leaves it as it is. -/
theorem modify_of_size_le {α : Type} (xs : Array α) (h : xs.size ≤ i) (f : α → α) :
    xs.modify i f = xs := by
  simp only [Array.modify, Array.modifyM, Id.run]
  rw [dif_neg (Nat.not_lt_of_le h)]
  rfl

/-- Two updates of one entry are one update by their composition. -/
theorem modify_modify_self {α : Type} (xs : Array α) (f g : α → α) :
    (xs.modify i f).modify i g = xs.modify i (g ∘ f) := by
  apply Array.ext
  · simp
  · intro k h1 h2
    simp only [Array.getElem_modify]
    by_cases hk : i = k <;> simp [hk]

theorem task_of_lt (h : i < r.tasks.size) : r.task i = r.tasks[i] := by
  simp [task, h]

theorem task_of_size_le (h : r.tasks.size ≤ i) : r.task i = default := by
  simp [task, Array.getElem?_eq_none h]

theorem fut_of_size_le {f : Nat} (h : r.futs.size ≤ f) : r.fut f = default := by
  simp [fut, Array.getElem?_eq_none h]

theorem group_of_size_le {g : Nat} (h : r.groups.size ≤ g) : r.group g = default := by
  simp [group, Array.getElem?_eq_none h]

section Views

variable {r} {r' : Run}

/-- A task is read off the run's tasks alone. -/
theorem task_eq_of_tasks (h : r'.tasks = r.tasks) (k : Nat) : r'.task k = r.task k := by
  simp only [task, h]

/-- A group is read off the run's groups alone. -/
theorem group_eq_of_groups (h : r'.groups = r.groups) (g : Nat) : r'.group g = r.group g := by
  simp only [group, h]

end Views

/-! ## One task -/

section SetTask

variable (f : Task → Task)

@[simp] theorem setTask_world : (r.setTask i f).world = r.world := rfl
@[simp] theorem setTask_futs : (r.setTask i f).futs = r.futs := rfl
@[simp] theorem setTask_groups : (r.setTask i f).groups = r.groups := rfl
@[simp] theorem setTask_stores : (r.setTask i f).stores = r.stores := rfl
@[simp] theorem setTask_queue : (r.setTask i f).queue = r.queue := rfl
@[simp] theorem setTask_issued : (r.setTask i f).issued = r.issued := rfl
@[simp] theorem setTask_size : (r.setTask i f).tasks.size = r.tasks.size := Array.size_modify
@[simp] theorem group_setTask {g : Nat} : (r.setTask i f).group g = r.group g := rfl
@[simp] theorem fut_setTask {h : Nat} : (r.setTask i f).fut h = r.fut h := rfl

theorem task_setTask :
    (r.setTask i f).task j = if i = j ∧ j < r.tasks.size then f (r.task j) else r.task j := by
  simp only [task, setTask, Array.getElem?_modify]
  by_cases hij : i = j
  · by_cases hj : j < r.tasks.size
    · simp [hij, hj]
    · simp [hij, hj]
  · simp [hij]

@[simp] theorem task_setTask_self (h : i < r.tasks.size) : (r.setTask i f).task i = f (r.task i) := by
  simp [task_setTask, h]

@[simp] theorem task_setTask_ne (h : i ≠ j) : (r.setTask i f).task j = r.task j := by
  simp [task_setTask, h]

theorem setTask_of_size_le (h : r.tasks.size ≤ i) : r.setTask i f = r := by
  simp [setTask, modify_of_size_le _ h]

/-- Two updates of one task are one update by their composition. -/
theorem setTask_setTask (g : Task → Task) : (r.setTask i f).setTask i g = r.setTask i (g ∘ f) := by
  simp only [setTask, modify_modify_self]

/-- An update that leaves its task as it is changes nothing. -/
theorem setTask_eq_self (h : f (r.task i) = r.task i) : r.setTask i f = r := by
  by_cases hi : i < r.tasks.size
  · rw [task_of_lt r hi] at h
    simp only [setTask]
    congr 1
    apply Array.ext
    · simp
    · intro k h1 h2
      simp only [Array.getElem_modify]
      by_cases hk : i = k
      · subst hk
        simpa using h
      · simp [hk]
  · exact setTask_of_size_le r f (Nat.le_of_not_lt hi)

end SetTask

/-! ## One group -/

section SetGroup

variable {g : Nat} (f : Group → Group)

@[simp] theorem setGroup_world : (r.setGroup g f).world = r.world := rfl
@[simp] theorem setGroup_tasks : (r.setGroup g f).tasks = r.tasks := rfl
@[simp] theorem setGroup_futs : (r.setGroup g f).futs = r.futs := rfl
@[simp] theorem setGroup_stores : (r.setGroup g f).stores = r.stores := rfl
@[simp] theorem setGroup_queue : (r.setGroup g f).queue = r.queue := rfl
@[simp] theorem setGroup_issued : (r.setGroup g f).issued = r.issued := rfl
@[simp] theorem setGroup_size : (r.setGroup g f).groups.size = r.groups.size := Array.size_modify

@[simp] theorem task_setGroup : (r.setGroup g f).task i = r.task i := rfl
@[simp] theorem fut_setGroup {h : Nat} : (r.setGroup g f).fut h = r.fut h := rfl

theorem group_setGroup {h : Nat} :
    (r.setGroup g f).group h = if g = h ∧ h < r.groups.size then f (r.group h) else r.group h := by
  simp only [group, setGroup, Array.getElem?_modify]
  by_cases hgh : g = h
  · by_cases hh : h < r.groups.size
    · simp [hgh, hh]
    · simp [hgh, hh]
  · simp [hgh]

@[simp] theorem group_setGroup_self (h : g < r.groups.size) :
    (r.setGroup g f).group g = f (r.group g) := by
  simp [group_setGroup, h]

@[simp] theorem group_setGroup_ne {h : Nat} (hne : g ≠ h) : (r.setGroup g f).group h = r.group h := by
  simp [group_setGroup, hne]

theorem setGroup_of_size_le (h : r.groups.size ≤ g) : r.setGroup g f = r := by
  simp [setGroup, modify_of_size_le _ h]

end SetGroup

/-! ## Store, cache, queue and log -/

section Others

variable {l : Nat} (f : Store → Store) (c : Cache → Cache) (e : Event) (level : Log.Level)
  (msg : String)

@[simp] theorem setStore_world : (r.setStore l f).world = r.world := rfl
@[simp] theorem setStore_tasks : (r.setStore l f).tasks = r.tasks := rfl
@[simp] theorem setStore_futs : (r.setStore l f).futs = r.futs := rfl
@[simp] theorem setStore_groups : (r.setStore l f).groups = r.groups := rfl
@[simp] theorem setStore_queue : (r.setStore l f).queue = r.queue := rfl
@[simp] theorem setStore_issued : (r.setStore l f).issued = r.issued := rfl
@[simp] theorem task_setStore : (r.setStore l f).task i = r.task i := rfl
@[simp] theorem store_setStore_self : (r.setStore l f).store l = f (r.store l) := by
  simp [store, setStore]

@[simp] theorem setCache_cache : (r.setCache c).world.cache = c r.world.cache := rfl
@[simp] theorem setCache_sources : (r.setCache c).world.sources = r.world.sources := rfl
@[simp] theorem setCache_tasks : (r.setCache c).tasks = r.tasks := rfl
@[simp] theorem setCache_futs : (r.setCache c).futs = r.futs := rfl
@[simp] theorem setCache_groups : (r.setCache c).groups = r.groups := rfl
@[simp] theorem setCache_stores : (r.setCache c).stores = r.stores := rfl
@[simp] theorem setCache_queue : (r.setCache c).queue = r.queue := rfl
@[simp] theorem setCache_issued : (r.setCache c).issued = r.issued := rfl
@[simp] theorem task_setCache : (r.setCache c).task i = r.task i := rfl

@[simp] theorem enqueue_world : (r.enqueue e).world = r.world := rfl
@[simp] theorem enqueue_tasks : (r.enqueue e).tasks = r.tasks := rfl
@[simp] theorem enqueue_futs : (r.enqueue e).futs = r.futs := rfl
@[simp] theorem enqueue_groups : (r.enqueue e).groups = r.groups := rfl
@[simp] theorem enqueue_stores : (r.enqueue e).stores = r.stores := rfl
@[simp] theorem enqueue_queue : (r.enqueue e).queue = r.queue ++ [e] := rfl
@[simp] theorem enqueue_issued : (r.enqueue e).issued = r.issued := rfl
@[simp] theorem task_enqueue : (r.enqueue e).task i = r.task i := rfl
@[simp] theorem group_enqueue {g : Nat} : (r.enqueue e).group g = r.group g := rfl
@[simp] theorem fut_enqueue {h : Nat} : (r.enqueue e).fut h = r.fut h := rfl

@[simp] theorem note_cache : (r.note level msg).world.cache = r.world.cache := rfl
@[simp] theorem note_sources : (r.note level msg).world.sources = r.world.sources := rfl
@[simp] theorem note_tasks : (r.note level msg).tasks = r.tasks := rfl
@[simp] theorem note_futs : (r.note level msg).futs = r.futs := rfl
@[simp] theorem note_groups : (r.note level msg).groups = r.groups := rfl
@[simp] theorem note_stores : (r.note level msg).stores = r.stores := rfl
@[simp] theorem note_queue : (r.note level msg).queue = r.queue := rfl
@[simp] theorem note_issued : (r.note level msg).issued = r.issued := rfl
@[simp] theorem task_note : (r.note level msg).task i = r.task i := rfl

end Others

/-! ## Asking a source -/

section Ask

variable {α : Type} (src : String) (q : Source → Source × Reply α) (nothing : α)

@[simp] theorem ask_cache : (r.ask src q nothing).1.world.cache = r.world.cache := by
  unfold ask; split <;> rfl
@[simp] theorem ask_tasks : (r.ask src q nothing).1.tasks = r.tasks := by
  unfold ask; split <;> rfl
@[simp] theorem ask_futs : (r.ask src q nothing).1.futs = r.futs := by
  unfold ask; split <;> rfl
@[simp] theorem ask_groups : (r.ask src q nothing).1.groups = r.groups := by
  unfold ask; split <;> rfl
@[simp] theorem ask_stores : (r.ask src q nothing).1.stores = r.stores := by
  unfold ask; split <;> rfl
@[simp] theorem ask_queue : (r.ask src q nothing).1.queue = r.queue := by
  unfold ask; split <;> rfl
@[simp] theorem ask_issued : (r.ask src q nothing).1.issued = r.issued := by
  unfold ask; split <;> rfl
@[simp] theorem task_ask : (r.ask src q nothing).1.task i = r.task i := by
  simp [task]

/-- The reply of a source that is there, and the source as it is afterwards. -/
theorem ask_of_lookup {s : Source} (h : r.world.sources.lookup src = some s) :
    r.ask src q nothing =
      ({ r with world := { r.world with sources := setEntry r.world.sources src (q s).1 } },
        (q s).2) := by
  simp [ask, h]

/-- A missing source answers nothing, after yielding. -/
theorem ask_of_lookup_none (h : r.world.sources.lookup src = none) :
    r.ask src q nothing = (r, ⟨true, .ok nothing⟩) := by
  simp [ask, h]

end Ask

/-! ## Starting a task and a pending outcome -/

section Spawn

variable (role : Role) (cbs : List Callback) (ph : Phase) (w : Nat)

@[simp] theorem spawn_snd : (r.spawn role cbs ph).2 = r.tasks.size := rfl
@[simp] theorem spawn_world : (r.spawn role cbs ph).1.world = r.world := rfl
@[simp] theorem spawn_tasks :
    (r.spawn role cbs ph).1.tasks = r.tasks.push { role, phase := ph, callbacks := cbs } := rfl
@[simp] theorem spawn_futs : (r.spawn role cbs ph).1.futs = r.futs := rfl
@[simp] theorem spawn_groups : (r.spawn role cbs ph).1.groups = r.groups := rfl
@[simp] theorem spawn_stores : (r.spawn role cbs ph).1.stores = r.stores := rfl
@[simp] theorem spawn_queue :
    (r.spawn role cbs ph).1.queue = r.queue ++ [.step r.tasks.size false] := rfl
@[simp] theorem spawn_issued : (r.spawn role cbs ph).1.issued = r.issued := rfl

theorem task_spawn :
    (r.spawn role cbs ph).1.task j =
      if j = r.tasks.size then { role, phase := ph, callbacks := cbs } else r.task j := by
  simp only [task, spawn_tasks, Array.getElem?_push]
  split <;> rfl

@[simp] theorem newFut_snd : (r.newFut w).2 = r.futs.size := rfl
@[simp] theorem newFut_world : (r.newFut w).1.world = r.world := rfl
@[simp] theorem newFut_tasks : (r.newFut w).1.tasks = r.tasks := rfl
@[simp] theorem newFut_futs : (r.newFut w).1.futs = r.futs.push { waiters := [w] } := rfl
@[simp] theorem newFut_groups : (r.newFut w).1.groups = r.groups := rfl
@[simp] theorem newFut_stores : (r.newFut w).1.stores = r.stores := rfl
@[simp] theorem newFut_queue : (r.newFut w).1.queue = r.queue := rfl
@[simp] theorem newFut_issued : (r.newFut w).1.issued = r.issued := rfl
@[simp] theorem task_newFut : (r.newFut w).1.task i = r.task i := rfl
@[simp] theorem group_newFut {g : Nat} : (r.newFut w).1.group g = r.group g := rfl

theorem fut_newFut {f : Nat} :
    (r.newFut w).1.fut f = if f = r.futs.size then { waiters := [w] } else r.fut f := by
  simp only [fut, newFut_futs, Array.getElem?_push]
  split <;> rfl

end Spawn

/-! ## Ending a task -/

/-- Queueing one event per item of a list appends those events to the queue. -/
theorem foldl_enqueue {α : Type} (xs : List α) (ev : α → Event) :
    xs.foldl (fun r x => r.enqueue (ev x)) r = { r with queue := r.queue ++ xs.map ev } := by
  induction xs generalizing r with
  | nil => simp
  | cons x xs ih => simp [ih, List.append_assoc]

/-- Ending task `i` marks its ending and queues the events of its callbacks. -/
theorem finish_eq (e : Ending) :
    r.finish i e =
      { r.setTask i (fun t => { t with ending := some e, waitsOn := none }) with
        queue := r.queue ++ (r.task i).callbacks.map (Callback.event i) } := by
  simp only [finish]
  rw [foldl_enqueue]
  rfl

section Finish

variable (e : Ending)

@[simp] theorem finish_world : (r.finish i e).world = r.world := by simp [finish_eq]
@[simp] theorem finish_futs : (r.finish i e).futs = r.futs := by simp [finish_eq]
@[simp] theorem finish_groups : (r.finish i e).groups = r.groups := by simp [finish_eq]
@[simp] theorem finish_stores : (r.finish i e).stores = r.stores := by simp [finish_eq]
@[simp] theorem finish_issued : (r.finish i e).issued = r.issued := by simp [finish_eq]
@[simp] theorem finish_size : (r.finish i e).tasks.size = r.tasks.size := by simp [finish_eq]
@[simp] theorem finish_queue :
    (r.finish i e).queue = r.queue ++ (r.task i).callbacks.map (Callback.event i) := by
  simp [finish_eq]

theorem task_finish :
    (r.finish i e).task j =
      if i = j ∧ j < r.tasks.size then { r.task j with ending := some e, waitsOn := none }
      else r.task j := by
  rw [finish_eq]
  exact task_setTask r _

@[simp] theorem task_finish_self (h : i < r.tasks.size) :
    (r.finish i e).task i = { r.task i with ending := some e, waitsOn := none } := by
  simp [task_finish, h]

@[simp] theorem task_finish_ne (h : i ≠ j) : (r.finish i e).task j = r.task j := by
  simp [task_finish, h]

end Finish

/-! ## Settling an outcome -/

section Settle

variable {f : Nat}

/-- An entry of the outcomes of a run whose outcomes are those of `r`, one of them
updated. -/
theorem fut_modify {r' : Run} {F : Fut → Fut} (h : r'.futs = r.futs.modify f F) {f' : Nat} :
    r'.fut f' = if f = f' ∧ f' < r.futs.size then F (r.fut f') else r.fut f' := by
  simp only [fut, h, Array.getElem?_modify]
  by_cases hf : f = f'
  · by_cases hs : f' < r.futs.size
    · simp [hf, hs]
    · simp [hf, hs]
  · simp [hf]

theorem isPending_iff : r.isPending f = true ↔ (r.fut f).state = .pending := by
  unfold isPending
  split <;> simp_all

/-- Cancelling a pending outcome wakes each of its waiters cancelled. -/
theorem settle_cancelled (h : (r.fut f).state = .pending) :
    r.settle f .cancelled =
      { r with futs := r.futs.modify f (fun x => { x with state := .cancelled })
               queue := r.queue ++ (r.fut f).waiters.map fun w => .step w true } := by
  simp only [settle, h]
  rw [foldl_enqueue]

/-- Resolving a pending outcome wakes each of its waiters. -/
theorem settle_resolved (h : (r.fut f).state = .pending) (e : Ending) :
    r.settle f (.resolved e) =
      { r with futs := r.futs.modify f (fun x => { x with state := .resolved e })
               queue := r.queue ++ (r.fut f).waiters.map fun w => .step w false } := by
  simp only [settle, h]
  rw [foldl_enqueue]

/-- An outcome already settled stays as it is. -/
theorem settle_of_not_pending (h : r.isPending f = false) (st : FutState) : r.settle f st = r := by
  unfold isPending at h
  unfold settle
  split <;> simp_all

@[simp] theorem settle_world (st : FutState) : (r.settle f st).world = r.world := by
  unfold settle; split <;> simp [foldl_enqueue]
@[simp] theorem settle_tasks (st : FutState) : (r.settle f st).tasks = r.tasks := by
  unfold settle; split <;> simp [foldl_enqueue]
@[simp] theorem settle_groups (st : FutState) : (r.settle f st).groups = r.groups := by
  unfold settle; split <;> simp [foldl_enqueue]
@[simp] theorem settle_stores (st : FutState) : (r.settle f st).stores = r.stores := by
  unfold settle; split <;> simp [foldl_enqueue]
@[simp] theorem settle_issued (st : FutState) : (r.settle f st).issued = r.issued := by
  unfold settle; split <;> simp [foldl_enqueue]
@[simp] theorem task_settle (st : FutState) : (r.settle f st).task i = r.task i := by
  simp [task]

/-- Settling an outcome leaves every other outcome as it was. -/
theorem fut_settle_of_ne {f' : Nat} (hf : f' ≠ f) (st : FutState) :
    (r.settle f st).fut f' = r.fut f' := by
  unfold settle
  split
  · rw [foldl_enqueue, fut_modify r (F := fun x => { x with state := st }) rfl,
      if_neg fun h => hf h.1.symm]
  · rfl

/-- An outcome still pending once an outcome is settled was pending before, and is as it
was. -/
theorem fut_settle_of_pending {f' : Nat} {st : FutState} (hst : st ≠ .pending)
    (hp : ((r.settle f st).fut f').state = .pending) : (r.settle f st).fut f' = r.fut f' := by
  by_cases hf : f' = f
  · subst hf
    unfold settle at hp ⊢
    split
    · next hpend =>
      simp only [hpend] at hp
      rw [foldl_enqueue, fut_modify r (F := fun x => { x with state := st }) rfl] at hp ⊢
      split
      · next hc =>
        rw [if_pos hc] at hp
        exact absurd hp hst
      · rfl
    · rfl
  · exact fut_settle_of_ne r hf st

end Settle

/-! ## Cancelling -/

section Cancel

variable {g : Nat}

/-- What cancelling a task does: nothing to a task that has ended; else cancel the
outcome it waits on if that is pending, or mark its next step. -/
theorem cancelTask_cases :
    r.cancelTask i = r ∨
      (∃ f, r.isPending f = true ∧ r.cancelTask i = r.settle f .cancelled) ∨
      r.cancelTask i = r.setTask i fun t => { t with mustCancel := true } := by
  simp only [cancelTask]
  by_cases he : (r.task i).ending.isSome = true
  · simp [he]
  · cases hw : (r.task i).waitsOn with
    | none => simp [he]
    | some f =>
      by_cases hp : r.isPending f = true
      · exact .inr (.inl ⟨f, hp, by simp [he, hp]⟩)
      · simp [he, hp]

@[simp] theorem cancelTask_world : (r.cancelTask i).world = r.world := by
  rcases cancelTask_cases r (i := i) with h | ⟨f, -, h⟩ | h <;> simp [h]
@[simp] theorem cancelTask_groups : (r.cancelTask i).groups = r.groups := by
  rcases cancelTask_cases r (i := i) with h | ⟨f, -, h⟩ | h <;> simp [h]
@[simp] theorem cancelTask_stores : (r.cancelTask i).stores = r.stores := by
  rcases cancelTask_cases r (i := i) with h | ⟨f, -, h⟩ | h <;> simp [h]
@[simp] theorem cancelTask_issued : (r.cancelTask i).issued = r.issued := by
  rcases cancelTask_cases r (i := i) with h | ⟨f, -, h⟩ | h <;> simp [h]
@[simp] theorem cancelTask_size : (r.cancelTask i).tasks.size = r.tasks.size := by
  rcases cancelTask_cases r (i := i) with h | ⟨f, -, h⟩ | h <;> simp [h]

/-- Cancelling keeps the standing of every task. -/
@[simp] theorem standing_cancelTask : ((r.cancelTask i).task j).standing = (r.task j).standing := by
  rcases cancelTask_cases r (i := i) with h | ⟨f, -, h⟩ | h
  · rw [h]
  · rw [h, task_settle]
  · rw [h, task_setTask]
    split <;> rfl

/-- What a plan's cancel does: cancel the caller its entry issued, or nothing. -/
theorem cancelIssued_cases (k : Nat) :
    (∃ c, r.issued[k]? = some (some c) ∧ r.cancelIssued k = r.cancelTask c) ∨
      r.cancelIssued k = r := by
  unfold cancelIssued
  split
  · next c hc => exact .inl ⟨c, hc, rfl⟩
  · exact .inr rfl

@[simp] theorem cancelIssued_world (k : Nat) : (r.cancelIssued k).world = r.world := by
  rcases cancelIssued_cases r k with ⟨c, -, h⟩ | h <;> simp [h]
@[simp] theorem cancelIssued_groups (k : Nat) : (r.cancelIssued k).groups = r.groups := by
  rcases cancelIssued_cases r k with ⟨c, -, h⟩ | h <;> simp [h]
@[simp] theorem cancelIssued_issued (k : Nat) : (r.cancelIssued k).issued = r.issued := by
  rcases cancelIssued_cases r k with ⟨c, -, h⟩ | h <;> simp [h]
@[simp] theorem cancelIssued_size (k : Nat) : (r.cancelIssued k).tasks.size = r.tasks.size := by
  rcases cancelIssued_cases r k with ⟨c, -, h⟩ | h <;> simp [h]
@[simp] theorem standing_cancelIssued (k : Nat) :
    ((r.cancelIssued k).task j).standing = (r.task j).standing := by
  rcases cancelIssued_cases r k with ⟨c, -, h⟩ | h <;> simp [h]

/-- Cancelling the tasks of a list, one by one. -/
theorem foldl_cancelTask_views (l : List Nat) :
    let r' := l.foldl (fun r t => r.cancelTask t) r
    r'.world = r.world ∧ r'.groups = r.groups ∧ r'.stores = r.stores ∧ r'.issued = r.issued ∧
      r'.tasks.size = r.tasks.size ∧ ∀ j, (r'.task j).standing = (r.task j).standing := by
  induction l generalizing r with
  | nil => simp
  | cons c l ih =>
    obtain ⟨hw, hg, hs, hi, hz, ht⟩ := ih (r.cancelTask c)
    simp only [List.foldl_cons]
    exact ⟨by simp [hw], by simp [hg], by simp [hs], by simp [hi], by simp [hz],
      fun j => by rw [ht j, standing_cancelTask]⟩

@[simp] theorem abort_world : (r.abort g).world = r.world := by
  simp [abort, (foldl_cancelTask_views _ _).1]
@[simp] theorem abort_stores : (r.abort g).stores = r.stores := by
  simp [abort, (foldl_cancelTask_views _ _).2.2.1]
@[simp] theorem abort_issued : (r.abort g).issued = r.issued := by
  simp [abort, (foldl_cancelTask_views _ _).2.2.2.1]
@[simp] theorem abort_size : (r.abort g).tasks.size = r.tasks.size := by
  simp [abort, (foldl_cancelTask_views _ _).2.2.2.2.1]
@[simp] theorem standing_abort : ((r.abort g).task j).standing = (r.task j).standing := by
  simp [abort, (foldl_cancelTask_views _ _).2.2.2.2.2]

/-- Past the end of the groups there is nothing to abort. -/
theorem abort_of_size_le (h : r.groups.size ≤ g) : r.abort g = r := by
  simp [abort, setGroup_of_size_le r _ h, group_of_size_le r h]
  rfl

/-- Aborting a group marks it aborting and touches no other group. -/
theorem abort_groups :
    (r.abort g).groups = (r.setGroup g fun x => { x with aborting := true }).groups := by
  simp [abort, (foldl_cancelTask_views _ _).2.1]

end Cancel

/-! ## What cancelling does

`Cancels r r' L` says that `r'` is `r` after cancelling some tasks of `L`, in whatever
order and however often: a cancelled task is marked for a cancelled next step, or the
pending outcome it waits on is cancelled and every waiter of that outcome is woken
cancelled.  It is closed under composition, so one statement covers a single cancel,
the cancels of `abort` and the owner's cancel that follows. -/

section Cancels

/-- `r'` is `r` after cancelling tasks of `L`. -/
structure Cancels (r r' : Run) (L : List Nat) : Prop where
  world : r'.world = r.world
  groups : r'.groups = r.groups
  stores : r'.stores = r.stores
  issued : r'.issued = r.issued
  size : r'.tasks.size = r.tasks.size
  futsSize : r'.futs.size = r.futs.size
  task : ∀ j, r'.task j = r.task j ∨ j ∈ L ∧ r'.task j = { r.task j with mustCancel := true }
  fut : ∀ f, r'.fut f = r.fut f ∨ (r.fut f).state = .pending ∧
    (∃ c ∈ L, (r.task c).waitsOn = some f) ∧ r'.fut f = { r.fut f with state := .cancelled }
  queueOld : ∀ x ∈ r.queue, x ∈ r'.queue
  queueNew : ∀ x ∈ r'.queue, x ∈ r.queue ∨ ∃ f, (r.fut f).state = .pending ∧
    (∃ c ∈ L, (r.task c).waitsOn = some f) ∧ ∃ w ∈ (r.fut f).waiters, x = .step w true
  woken : ∀ f, (r.fut f).state = .pending → (r'.fut f).state = .cancelled →
    ∀ w ∈ (r.fut f).waiters, Event.step w true ∈ r'.queue

variable {r' r'' : Run} {L L' : List Nat}

namespace Cancels

theorem refl (L : List Nat) : Cancels r r L where
  world := rfl
  groups := rfl
  stores := rfl
  issued := rfl
  size := rfl
  futsSize := rfl
  task _ := .inl rfl
  fut _ := .inl rfl
  queueOld _ hx := hx
  queueNew _ hx := .inl hx
  woken f hp hc := by rw [hp] at hc; cases hc

variable {r}

theorem mono (h : Cancels r r' L) (hL : L ⊆ L') : Cancels r r' L' where
  world := h.world
  groups := h.groups
  stores := h.stores
  issued := h.issued
  size := h.size
  futsSize := h.futsSize
  task j := (h.task j).imp_right fun hjt => ⟨hL hjt.1, hjt.2⟩
  fut f := (h.fut f).imp_right fun hfp =>
    ⟨hfp.1, hfp.2.1.imp fun _ hcw => ⟨hL hcw.1, hcw.2⟩, hfp.2.2⟩
  queueOld := h.queueOld
  queueNew x hx := (h.queueNew x hx).imp_right
    fun hq => hq.imp fun _ hf => ⟨hf.1, hf.2.1.imp fun _ hcw => ⟨hL hcw.1, hcw.2⟩, hf.2.2⟩
  woken := h.woken

theorem trans (h₁ : Cancels r r' L) (h₂ : Cancels r' r'' L) : Cancels r r'' L := by
  -- the first cancels keep what every task waits on and every pending outcome, so a cause
  -- the second cancels name is a cause in `r`
  have hwait : ∀ c, (r'.task c).waitsOn = (r.task c).waitsOn := fun c => by
    rcases h₁.task c with h | ⟨-, h⟩ <;> rw [h]
  have hpend : ∀ f, (r'.fut f).state = .pending → r'.fut f = r.fut f := fun f hp => by
    rcases h₁.fut f with h | ⟨-, -, h⟩
    · exact h
    · rw [h] at hp
      cases hp
  have hcause : ∀ f, (∃ c ∈ L, (r'.task c).waitsOn = some f) → ∃ c ∈ L, (r.task c).waitsOn = some f :=
    fun f hc => hc.imp fun c hcw => ⟨hcw.1, hwait c ▸ hcw.2⟩
  refine ⟨h₂.world.trans h₁.world, h₂.groups.trans h₁.groups, h₂.stores.trans h₁.stores,
    h₂.issued.trans h₁.issued, h₂.size.trans h₁.size, h₂.futsSize.trans h₁.futsSize, ?_, ?_,
    fun x hx => h₂.queueOld x (h₁.queueOld x hx), ?_, ?_⟩
  · intro j
    rcases h₂.task j with h | ⟨hj, h⟩
    · rw [h]
      exact h₁.task j
    · rcases h₁.task j with h' | ⟨-, h'⟩
      · exact .inr ⟨hj, by rw [h, h']⟩
      · exact .inr ⟨hj, by rw [h, h']⟩
  · intro f
    rcases h₂.fut f with h | ⟨hp, hc, h⟩
    · rw [h]
      exact h₁.fut f
    · have hr := hpend f hp
      rw [hr] at hp h
      exact .inr ⟨hp, hcause f hc, h⟩
  · intro x hx
    rcases h₂.queueNew x hx with hx' | ⟨f, hp, hc, w, hw, rfl⟩
    · exact h₁.queueNew x hx'
    · have hr := hpend f hp
      rw [hr] at hp hw
      exact .inr ⟨f, hp, hcause f hc, w, hw, rfl⟩
  · intro f hp hc w hw
    rcases h₁.fut f with h | ⟨-, -, h⟩
    · -- still pending after the first cancels: the second ones cancelled it
      rw [← h] at hp hw
      exact h₂.woken f hp hc w hw
    · have hc' : (r'.fut f).state = .cancelled := by rw [h]
      exact h₂.queueOld _ (h₁.woken f hp hc' w hw)

end Cancels

/-- Marking one task of `L` for a cancelled next step. -/
theorem cancels_mark {c : Nat} (hc : c ∈ L) :
    Cancels r (r.setTask c fun t => { t with mustCancel := true }) L where
  world := rfl
  groups := rfl
  stores := rfl
  issued := rfl
  size := setTask_size r _
  futsSize := rfl
  task j := by
    rw [task_setTask]
    split
    · next h => exact .inr ⟨h.1 ▸ hc, rfl⟩
    · exact .inl rfl
  fut _ := .inl rfl
  queueOld _ hx := hx
  queueNew _ hx := .inl hx
  woken f hp hc := by
    change (r.fut f).state = .cancelled at hc
    rw [hp] at hc
    cases hc

/-- Cancelling a pending outcome that a task of `L` waits on. -/
theorem cancels_settle {f : Nat} (hp : (r.fut f).state = .pending)
    (hf : ∃ c ∈ L, (r.task c).waitsOn = some f) : Cancels r (r.settle f .cancelled) L := by
  rw [settle_cancelled r hp]
  refine ⟨rfl, rfl, rfl, rfl, rfl, Array.size_modify, fun _ => .inl rfl, ?_,
    fun x hx => List.mem_append_left _ hx, ?_, ?_⟩
  · intro f'
    rw [fut_modify r (F := fun x => { x with state := .cancelled }) (f := f) rfl]
    split
    · next h =>
      obtain ⟨rfl, -⟩ := h
      exact .inr ⟨hp, hf, rfl⟩
    · exact .inl rfl
  · intro x hx
    rcases List.mem_append.1 hx with hx | hx
    · exact .inl hx
    · obtain ⟨w, hw, rfl⟩ := List.mem_map.1 hx
      exact .inr ⟨f, hp, hf, w, hw, rfl⟩
  · intro f' hp' hc w hw
    rw [fut_modify r (F := fun x => { x with state := .cancelled }) (f := f) rfl] at hc
    split at hc
    · next h =>
      obtain ⟨rfl, -⟩ := h
      exact List.mem_append_right _ (List.mem_map.2 ⟨w, hw, rfl⟩)
    · rw [hp'] at hc
      cases hc

/-- Cancelling one task is a cancel of it. -/
theorem cancels_cancelTask (c : Nat) : Cancels r (r.cancelTask c) [c] := by
  unfold cancelTask
  dsimp only
  split
  · exact Cancels.refl r [c]
  · split
    · next f hw =>
      split
      · next hp => exact cancels_settle r ((isPending_iff r).1 hp) ⟨c, List.mem_singleton_self c, hw⟩
      · exact cancels_mark r (List.mem_singleton_self c)
    · exact cancels_mark r (List.mem_singleton_self c)

/-- Cancelling the tasks of a list one by one is a cancel of them. -/
theorem cancels_foldl_cancelTask (l : List Nat) :
    Cancels r (l.foldl (fun r t => r.cancelTask t) r) l := by
  induction l generalizing r with
  | nil => exact Cancels.refl r []
  | cons c l ih =>
    rw [List.foldl_cons]
    exact ((cancels_cancelTask r c).mono (by simp)).trans
      ((ih (r := r.cancelTask c)).mono (List.subset_cons_self c l))

/-- Aborting a group, once it is marked aborting, cancels its live members. -/
theorem cancels_abort {g : Nat} :
    Cancels (r.setGroup g fun x => { x with aborting := true }) (r.abort g) (r.group g).live := by
  have hlive : ((r.setGroup g fun x => { x with aborting := true }).group g).live =
      (r.group g).live := by
    rw [group_setGroup]
    split <;> rfl
  unfold abort
  dsimp only
  rw [hlive]
  exact cancels_foldl_cancelTask _ _

end Cancels

/-! ## Noting the end of a member -/

section ChildDone

variable {g c : Nat}

/-- The first half of noting that member `c` of group `g` ended: the group drops it from
its live members and, if none is left, resolves its owner's wait. -/
def noteLive (r : Run) (g c : Nat) : Run :=
  let r := r.setGroup g fun x => { x with live := x.live.erase c }
  match (r.group g).fut with
  | some f => if (r.group g).live.isEmpty then r.settle f (.resolved .ok) else r
  | none => r

/-- The second half: a failed member's failure is recorded, and the first failure of a
group that `grp` describes aborts the group and cancels its owner. -/
def noteFailure (r : Run) (g c : Nat) (grp : Group) : Run :=
  match (r.task c).ending with
  | some (.failed fl) =>
    let r := r.setGroup g fun x => { x with errors := x.errors ++ [fl] }
    if !grp.aborting && !grp.ownerCancelled then
      ((r.abort g).setGroup g fun x => { x with ownerCancelled := true }).cancelTask grp.owner
    else r
  | _ => r

theorem childDone_eq :
    r.childDone g c =
      (r.noteLive g c).noteFailure g c
        ((r.setGroup g fun x => { x with live := x.live.erase c }).group g) := rfl

theorem noteLive_cases :
    r.noteLive g c = r.setGroup g (fun x => { x with live := x.live.erase c }) ∨
      ∃ f, r.noteLive g c =
        (r.setGroup g fun x => { x with live := x.live.erase c }).settle f (.resolved .ok) := by
  unfold noteLive
  dsimp only
  split
  · split
    · exact .inr ⟨_, rfl⟩
    · exact .inl rfl
  · exact .inl rfl

@[simp] theorem noteLive_groups :
    (r.noteLive g c).groups = (r.setGroup g fun x => { x with live := x.live.erase c }).groups := by
  rcases noteLive_cases r (g := g) (c := c) with h | ⟨f, h⟩ <;> simp [h]
@[simp] theorem noteLive_tasks : (r.noteLive g c).tasks = r.tasks := by
  rcases noteLive_cases r (g := g) (c := c) with h | ⟨f, h⟩ <;> simp [h]
@[simp] theorem noteLive_world : (r.noteLive g c).world = r.world := by
  rcases noteLive_cases r (g := g) (c := c) with h | ⟨f, h⟩ <;> simp [h]
@[simp] theorem noteLive_stores : (r.noteLive g c).stores = r.stores := by
  rcases noteLive_cases r (g := g) (c := c) with h | ⟨f, h⟩ <;> simp [h]
@[simp] theorem noteLive_issued : (r.noteLive g c).issued = r.issued := by
  rcases noteLive_cases r (g := g) (c := c) with h | ⟨f, h⟩ <;> simp [h]
@[simp] theorem task_noteLive : (r.noteLive g c).task j = r.task j := by
  simp [task]

end ChildDone

/-! ## Starting a group -/

/-- Updating the entry just pushed updates the pushed value. -/
theorem modify_push_size {α : Type} (xs : Array α) (a : α) (f : α → α) :
    (xs.push a).modify xs.size f = xs.push (f a) := by
  apply Array.ext
  · simp
  · intro i h1 h2
    simp only [Array.getElem_modify, Array.getElem_push]
    by_cases hi : i = xs.size
    · subst hi; simp
    · have hlt : i < xs.size := by simp at h1; omega
      simp [hlt, Ne.symm hi]

/-- Starting the members of a group one by one appends them as tasks, queues their first
steps and collects their indices. -/
theorem startGroup_fold (g : Nat) (roles : List Role) (acc : List Nat) :
    roles.foldl (fun (acc : Run × List Nat) role =>
      let (r, c) := acc.1.spawn role [.childDone g]
      (r, acc.2 ++ [c])) (r, acc) =
    ({ r with
        tasks := r.tasks ++
          (roles.map fun role => ({ role, callbacks := [.childDone g] } : Task)).toArray
        queue := r.queue ++ (List.range' r.tasks.size roles.length).map fun c => .step c false },
     acc ++ List.range' r.tasks.size roles.length) := by
  induction roles generalizing r acc with
  | nil => simp
  | cons role roles ih =>
    rw [List.foldl_cons]
    simp only
    rw [ih]
    simp [List.range'_succ, List.append_assoc]

/-- A new group: its members are new tasks, one per role in order, whose first steps are
queued, and all of them are live. -/
theorem startGroup_eq (o : Nat) (roles : List Role) :
    r.startGroup o roles =
      ({ r with
          tasks := r.tasks ++
            (roles.map fun role => ({ role, callbacks := [.childDone r.groups.size] } : Task)).toArray
          groups := r.groups.push { owner := o, live := List.range' r.tasks.size roles.length }
          queue := r.queue ++ (List.range' r.tasks.size roles.length).map fun c => .step c false },
       r.groups.size) := by
  simp only [startGroup]
  rw [startGroup_fold]
  simp [setGroup, modify_push_size]

@[simp] theorem startGroup_world (o : Nat) (roles : List Role) :
    (r.startGroup o roles).1.world = r.world := by
  simp [startGroup_eq]

@[simp] theorem startGroup_stores (o : Nat) (roles : List Role) :
    (r.startGroup o roles).1.stores = r.stores := by
  simp [startGroup_eq]

@[simp] theorem startGroup_issued (o : Nat) (roles : List Role) :
    (r.startGroup o roles).1.issued = r.issued := by
  simp [startGroup_eq]

@[simp] theorem startGroup_size (o : Nat) (roles : List Role) :
    (r.startGroup o roles).1.tasks.size = r.tasks.size + roles.length := by
  simp [startGroup_eq]

/-- A new group leaves the tasks before it alone. -/
theorem task_startGroup_of_lt (o : Nat) (roles : List Role) (h : j < r.tasks.size) :
    (r.startGroup o roles).1.task j = r.task j := by
  simp [startGroup_eq, task, Array.getElem?_append_left h]

/-- The members of a new group follow the tasks before it, one per role. -/
theorem task_startGroup_of_le (o : Nat) (roles : List Role) (h : r.tasks.size ≤ j) :
    (r.startGroup o roles).1.task j =
      ((roles[j - r.tasks.size]?).map fun role =>
        ({ role, callbacks := [.childDone r.groups.size] } : Task)).getD default := by
  simp only [startGroup_eq, task]
  rw [Array.getElem?_append_right h]
  simp

@[simp] theorem startGroup_futs (o : Nat) (roles : List Role) :
    (r.startGroup o roles).1.futs = r.futs := by
  simp [startGroup_eq]

@[simp] theorem startGroup_queue (o : Nat) (roles : List Role) :
    (r.startGroup o roles).1.queue =
      r.queue ++ (List.range' r.tasks.size roles.length).map fun c => .step c false := by
  simp [startGroup_eq]

@[simp] theorem startGroup_groups_size (o : Nat) (roles : List Role) :
    (r.startGroup o roles).1.groups.size = r.groups.size + 1 := by
  simp [startGroup_eq]

@[simp] theorem startGroup_snd (o : Nat) (roles : List Role) :
    (r.startGroup o roles).2 = r.groups.size := by
  simp [startGroup_eq]

/-- A new group follows the groups before it. -/
theorem group_startGroup (o : Nat) (roles : List Role) {g : Nat} :
    (r.startGroup o roles).1.group g =
      if g < r.groups.size then r.group g
      else if g = r.groups.size then { owner := o, live := List.range' r.tasks.size roles.length }
      else default := by
  simp only [startGroup_eq, group, Array.getElem?_push]
  by_cases hg : g < r.groups.size
  · simp [hg, Nat.ne_of_lt hg]
  · by_cases hg' : g = r.groups.size
    · simp [hg']
    · rw [if_neg hg', if_neg hg, if_neg hg']
      simp [Array.getElem?_eq_none (by omega : r.groups.size ≤ g)]

/-! ## Leaving a group

`groupExit` first handles a cancel from outside, then clears the group's pending outcome
and decides.  The two halves are named so that proofs can take them one at a time. -/

section GroupExit

variable {g : Nat} (thrown : Bool)

/-- An owner cancelled from outside aborts its group, unless it is aborting already. -/
def exitCancel (r : Run) (g : Nat) (thrown : Bool) : Run :=
  if thrown && !(r.group g).aborting then
    (r.setGroup g fun x => { x with outsideCancel := true }).abort g
  else r

/-- The owner `i` of group `g` decides once the group's pending outcome is cleared: wait
again while members remain, else end according to how the members ended. -/
def groupResume (r : Run) (i g : Nat) : Run :=
  let grp := r.group g
  if !grp.live.isEmpty then
    let (r, f) := r.newFut i
    let r := r.setGroup g fun x => { x with fut := some f }
    r.setTask i fun t => { t with phase := .grouped g, waitsOn := some f }
  else if grp.outsideCancel && grp.errors.isEmpty then r.finish i .cancelled
  else if !grp.errors.isEmpty then
    match (r.task i).role with
    | .loader .. =>
      match (Failure.group grp.errors).first with
      | some e => r.loadFailed i e
      | none => r.finish i (.failed (.group grp.errors))
    | _ => r.finish i (.failed (.group grp.errors))
  else
    match (r.task i).role with
    | .loader .. => r.publish i
    | _ => r.finish i .ok

theorem groupExit_eq :
    r.groupExit i g thrown =
      ((r.exitCancel g thrown).setGroup g fun x => { x with fut := none }).groupResume i g :=
  rfl

/-- The owner `i` of group `g`, none of whose members is live, ends according to how they
ended: cancelled if it was cancelled from outside and no member failed, failed if one
did, and otherwise well, the loader by publishing what it fetched. -/
def groupEnd (r : Run) (i g : Nat) : Run :=
  let grp := r.group g
  if grp.outsideCancel && grp.errors.isEmpty then r.finish i .cancelled
  else if !grp.errors.isEmpty then
    match (r.task i).role with
    | .loader .. =>
      match (Failure.group grp.errors).first with
      | some e => r.loadFailed i e
      | none => r.finish i (.failed (.group grp.errors))
    | _ => r.finish i (.failed (.group grp.errors))
  else
    match (r.task i).role with
    | .loader .. => r.publish i
    | _ => r.finish i .ok

/-- An owner that ends its group's check finishes, after at most a note and a publication,
which leave the tasks alone. -/
theorem groupEnd_finish {g : Nat} :
    ∃ (r' : Run) (e : Ending), r'.tasks = r.tasks ∧ r.groupEnd i g = r'.finish i e := by
  unfold groupEnd
  dsimp only
  split
  · exact ⟨r, _, rfl, rfl⟩
  · split
    · split
      · split
        · unfold loadFailed
          split <;> exact ⟨_, _, by rfl, rfl⟩
        · exact ⟨r, _, rfl, rfl⟩
      · exact ⟨r, _, rfl, rfl⟩
    · split
      · unfold publish
        split
        · split
          · exact ⟨_, _, by rfl, rfl⟩
          · exact ⟨_, _, by rfl, rfl⟩
        · exact ⟨r, _, rfl, rfl⟩
      · exact ⟨r, _, rfl, rfl⟩

/-- An owner that ends its group's check ends. -/
theorem groupEnd_ended {g : Nat} (hi : i < r.tasks.size) : ((r.groupEnd i g).task i).ending.isSome := by
  obtain ⟨r', e, hts, heq⟩ := r.groupEnd_finish (i := i) (g := g)
  rw [heq, task_finish_self _ _ (hts ▸ hi)]
  rfl

theorem groupResume_eq :
    r.groupResume i g =
      if (r.group g).live ≠ [] then
        ((r.newFut i).1.setGroup g fun x => { x with fut := some r.futs.size }).setTask i
          fun t => { t with phase := .grouped g, waitsOn := some r.futs.size }
      else r.groupEnd i g := by
  unfold groupResume groupEnd
  by_cases hl : (r.group g).live = [] <;> simp [hl]

@[simp] theorem exitCancel_false : r.exitCancel g false = r := by
  simp [exitCancel]

@[simp] theorem exitCancel_world : (r.exitCancel g thrown).world = r.world := by
  unfold exitCancel; split <;> simp

@[simp] theorem exitCancel_stores : (r.exitCancel g thrown).stores = r.stores := by
  unfold exitCancel; split <;> simp

@[simp] theorem exitCancel_issued : (r.exitCancel g thrown).issued = r.issued := by
  unfold exitCancel; split <;> simp

@[simp] theorem exitCancel_size : (r.exitCancel g thrown).tasks.size = r.tasks.size := by
  unfold exitCancel; split <;> simp

@[simp] theorem standing_exitCancel : ((r.exitCancel g thrown).task j).standing = (r.task j).standing := by
  unfold exitCancel; split <;> simp

end GroupExit

/-! ## Setting a phase

The phase of a task is read only by its own step.  Setting it commutes with the other
updates of a step, so a proof may take a step's phase change before or after them. -/

section Phase

variable (p : Phase)

theorem finish_setTask_phase (e : Ending) :
    (r.setTask i fun t => { t with phase := p }).finish i e =
      (r.finish i e).setTask i fun t => { t with phase := p } := by
  have hcb : ((r.setTask i fun t => { t with phase := p }).task i).callbacks =
      (r.task i).callbacks := by
    rw [task_setTask]
    split <;> rfl
  rw [finish_eq, finish_eq, hcb]
  simp only [setTask, modify_modify_self]
  rfl

theorem loadFailed_setTask_phase (f : LoadFailure) :
    (r.setTask i fun t => { t with phase := p }).loadFailed i f =
      (r.loadFailed i f).setTask i fun t => { t with phase := p } := by
  unfold loadFailed
  cases f with
  | stage _ => exact finish_setTask_phase (r.note .warning "Schema load failed") p _
  | misuse _ => exact finish_setTask_phase r p _

theorem publish_setTask_phase :
    (r.setTask i fun t => { t with phase := p }).publish i =
      (r.publish i).setTask i fun t => { t with phase := p } := by
  have hrole : ((r.setTask i fun t => { t with phase := p }).task i).role = (r.task i).role := by
    rw [task_setTask]
    split <;> rfl
  unfold publish
  rw [hrole]
  split
  · rename_i name _ gen _
    simp only [setTask_world]
    by_cases hg : r.world.cache.generation name ≠ gen
    · simp only [ne_eq, hg, not_false_eq_true, ↓reduceIte]
      exact finish_setTask_phase (r.note .debug "Discarding superseded schema load") p _
    · simp only [hg, ↓reduceIte]
      exact finish_setTask_phase ((r.setCache fun x => x.publish name (Snapshot.assemble
        (r.store i).databases (r.store i).tables (r.store i).columns)).note .info "Schema loaded") p _
  · exact finish_setTask_phase r p _

/-- **How an owner ends does not read its phase.** -/
theorem groupEnd_setTask_phase {g : Nat} :
    (r.setTask i fun t => { t with phase := p }).groupEnd i g =
      (r.groupEnd i g).setTask i fun t => { t with phase := p } := by
  have hrole : ((r.setTask i fun t => { t with phase := p }).task i).role = (r.task i).role := by
    rw [task_setTask]
    split <;> rfl
  unfold groupEnd
  simp only [group_setTask, hrole]
  split
  · exact finish_setTask_phase r p _
  · split
    · split
      · split
        · exact loadFailed_setTask_phase r p _
        · exact finish_setTask_phase r p _
      · exact finish_setTask_phase r p _
    · split
      · exact publish_setTask_phase r p
      · exact finish_setTask_phase r p _

/-- An owner that waits again sets the phase of its group's check itself. -/
theorem groupResume_setTask_grouped {g : Nat} (hl : (r.group g).live ≠ []) :
    (r.setTask i fun t => { t with phase := .grouped g }).groupResume i g = r.groupResume i g := by
  rw [groupResume_eq, groupResume_eq, group_setTask, if_pos hl, if_pos hl]
  show ((((r.newFut i).1.setGroup g fun x => { x with fut := some r.futs.size }).setTask i
    fun t => { t with phase := .grouped g }).setTask i _) = _
  rw [setTask_setTask]
  rfl

end Phase

/-! ## A step by role and phase -/

/-- What a step does once its task is found unended and the task's cancel mark and wait
are cleared: the body of `stepTask`, by the task's role and phase. -/
def resume (r : Run) (i : Nat) (thrown : Bool) : Role → Phase → Run
  | .client, .issuing rest => r.clientIssue i rest
  | .client, .awaiting rest => r.clientAwait i rest
  | .caller name src refresh, .start =>
    if thrown then r.finish i .cancelled else r.callerStart i name src refresh
  | .caller .., .shielded f =>
    match (r.fut f).state with
    | .resolved e => r.finish i e
    | .cancelled => r.finish i .cancelled
    | .pending => r
  | .loader _ src _, .start =>
    if thrown then r.finish i .cancelled
    else
      (r.note .info "Loading schema").fetchNames i src none (fun r o => r.loaderDatabases i o)
  | .loader .., .gotNames o => if thrown then r.finish i .cancelled else r.loaderDatabases i o
  | .database l d, .start =>
    if thrown then r.finish i .cancelled
    else r.fetchNames i (r.sourceOf l) (some d) (fun r o => r.databaseTables i l d o)
  | .database l d, .gotNames o =>
    if thrown then r.finish i .cancelled else r.databaseTables i l d o
  | .columns l d tb, .start =>
    if thrown then r.finish i .cancelled
    else r.fetchColumns i (r.sourceOf l) d tb (fun r o => r.columnsFetched i l d tb o)
  | .columns l d tb, .gotColumns o =>
    if thrown then r.finish i .cancelled else r.columnsFetched i l d tb o
  | _, .grouped g => r.groupExit i g thrown
  | _, _ => r

theorem stepTask_eq (thrown : Bool) :
    r.stepTask i thrown =
      if (r.task i).ending.isSome then r
      else (r.setTask i fun t => { t with mustCancel := false, waitsOn := none }).resume i
        (thrown || (r.task i).mustCancel) (r.task i).role (r.task i).phase := rfl

end Run

end SqlAssist.Schema
