import SqlAssist.Proofs.Schema.DatabaseTurns

/-!
# The loader's turns

The loader of a lone load takes three kinds of steps.  At its start it asks its source
for the databases; a question that yields brings it back one turn later, holding the
answer.  With the databases it starts its group, one database task per database at its
start, and checks it: with members, it waits on them.  Woken or cancelled, it checks its
group again: it waits while members are live, and once none is, a group that recorded a
failure fails the loader with the group's first failure.

## Main statements

* `Run.LoadInv.loader_step`: a step of the loader at its start or holding its answer.
* `Run.loaderDatabases_ok`: the group of database tasks the loader starts.
* `Run.loader_groupExit`: the loader's check of a group that recorded a failure.
-/

namespace SqlAssist.Schema

namespace Run

variable {r : Run} {S : LoadSetting} {th : Bool}

/-- **A step of the loader at its start or holding its answer, not cancelled**: the loader
yields with the source's reply, when its question yields, or takes the source's answer for
the databases.  `r₂` is the run as the loader has it then: the step taken off the queue, the
loader's flags cleared, and the source asked. -/
theorem LoadInv.loader_step (h : r.LoadInv S) (rest : List Event)
    (hend : (r.task 2).ending = none) (hth : (th || (r.task 2).mustCancel) = false)
    (hph : (r.task 2).phase = .start ∨ ∃ o, (r.task 2).phase = .gotNames o) :
    ∃ r₂ : Run, r₂.queue = rest ∧
      r₂.tasks = (r.setTask 2 fun t => { t with mustCancel := false, waitsOn := none }).tasks ∧
      r₂.groups = r.groups ∧
      (((r.task 2).phase = .start ∧ (namesReply S.source none).yields = true ∧
          ({ r with queue := rest } : Run).handle (.step 2 th) =
            (r₂.setTask 2 fun t => { t with phase := .gotNames (namesAnswer S.source none) }).enqueue
              (.step 2 false)) ∨
        ((((r.task 2).phase = .start ∧ (namesReply S.source none).yields = false) ∨
            ∃ o, (r.task 2).phase = .gotNames o) ∧
          ({ r with queue := rest } : Run).handle (.step 2 th) =
            r₂.loaderDatabases 2 (namesAnswer S.source none))) := by
  have hlt : 2 < r.tasks.size := by have := h.top.size; omega
  have hrole := h.tree.loader_role hlt
  have hshape := h.tree.shape 2 le_rfl hlt
  have htx : ({ r with queue := rest } : Run).task 2 = r.task 2 := rfl
  have hh : ({ r with queue := rest } : Run).handle (.step 2 th) =
      (({ r with queue := rest } : Run).setTask 2 fun t => { t with mustCancel := false, waitsOn := none }).resume
        2 false (.loader S.name S.src S.gen) (r.task 2).phase := by
    change Run.stepTask _ 2 th = _
    rw [stepTask_eq, htx, hend, hth, hrole]
    rfl
  rw [hh]
  generalize hr₁ : ({ r with queue := rest } : Run).setTask 2
    (fun t => { t with mustCancel := false, waitsOn := none }) = r₁
  have hq₁ : r₁.queue = rest := by rw [← hr₁]; rfl
  have ht₁ : r₁.tasks = (r.setTask 2 fun t => { t with mustCancel := false, waitsOn := none }).tasks := by
    rw [← hr₁]; rfl
  have hg₁ : r₁.groups = r.groups := by rw [← hr₁]; rfl
  rcases hph with hp | ⟨o, hp⟩
  · -- at its start the loader notes the load and asks its source for the databases
    rw [hp]
    simp only [resume, Bool.false_eq_true, ↓reduceIte]
    have hreply : ((r₁.note .info "Loading schema").ask S.src (·.askNames none) []).2 =
        namesReply S.source none := by
      refine ask_namesReply ?_ S.src none
      rw [note_sources, ← hr₁]
      exact h.cache.sources.agree
    have hq₂ : ((r₁.note .info "Loading schema").ask S.src (·.askNames none) []).1.queue = rest := by
      simp [hq₁]
    have ht₂ : ((r₁.note .info "Loading schema").ask S.src (·.askNames none) []).1.tasks = r₁.tasks := by
      simp
    have hg₂ : ((r₁.note .info "Loading schema").ask S.src (·.askNames none) []).1.groups = r₁.groups := by
      simp
    unfold fetchNames
    generalize (r₁.note .info "Loading schema").ask S.src (·.askNames none) [] = a at hreply hq₂ ht₂ hg₂
    obtain ⟨r₂, reply⟩ := a
    dsimp only at hreply hq₂ ht₂ hg₂ ⊢
    subst hreply
    refine ⟨r₂, hq₂, ht₂.trans ht₁, hg₂.trans hg₁, ?_⟩
    cases hy : (namesReply S.source none).yields
    · exact .inr ⟨.inl ⟨trivial, rfl⟩, by simp⟩
    · exact .inl ⟨trivial, rfl, by simp⟩
  · -- holding its answer, the loader takes it
    have ho : o = namesAnswer S.source none := by
      unfold LoadSetting.Shape at hshape
      rw [hrole] at hshape
      obtain ⟨-, -, -, -, hs⟩ := hshape
      rcases hs with hs | hs | ⟨g, hs⟩ <;> rw [hp] at hs <;> cases hs
      rfl
    rw [hp, ho]
    exact ⟨r₁, hq₁, ht₁, hg₁, .inr ⟨.inr ⟨_, rfl⟩, rfl⟩⟩

/-- **The loader with the databases `dbs` starts its group**: one database task per
database follows the tasks there were, at its start and a member of the new group, its
first step queued; the loader checks the group, which has recorded nothing. -/
theorem loaderDatabases_ok (hlt : 2 < r.tasks.size) {dbs : List Value} (hne : dbs ≠ []) :
    (r.loaderDatabases 2 (.ok dbs)).queue =
        r.queue ++ (List.range' r.tasks.size dbs.length).map (fun c => .step c false) ∧
      (r.loaderDatabases 2 (.ok dbs)).tasks.size = r.tasks.size + dbs.length ∧
      (r.loaderDatabases 2 (.ok dbs)).groups.size = r.groups.size + 1 ∧
      ((r.loaderDatabases 2 (.ok dbs)).task 2).ending = (r.task 2).ending ∧
      ((r.loaderDatabases 2 (.ok dbs)).task 2).phase = .grouped r.groups.size ∧
      (∀ i (hi : i < dbs.length), (r.loaderDatabases 2 (.ok dbs)).task (r.tasks.size + i) =
        { role := .database 2 dbs[i], callbacks := [.childDone r.groups.size] }) ∧
      ((r.loaderDatabases 2 (.ok dbs)).group r.groups.size).errors = [] := by
  have hG : ((r.setStore 2 fun _ => { databases := dbs }).startGroup 2
      (dbs.map (Role.database 2))).2 = r.groups.size := by simp
  unfold loaderDatabases
  dsimp only
  rw [hG, groupExit_eq, exitCancel_false]
  generalize hR : ((r.setStore 2 fun _ => { databases := dbs }).startGroup 2
    (dbs.map (Role.database 2))).1 = R
  -- the new group and its members
  have hRq : R.queue = r.queue ++ (List.range' r.tasks.size dbs.length).map fun c => .step c false := by
    rw [← hR]
    simp
  have hRs : R.tasks.size = r.tasks.size + dbs.length := by
    rw [← hR]
    simp
  have hRg : R.groups.size = r.groups.size + 1 := by
    rw [← hR]
    simp
  have hR2 : R.task 2 = r.task 2 := by
    rw [← hR, task_startGroup_of_lt _ _ _ (by simpa using hlt)]
    rfl
  have hRnew : ∀ i (hi : i < dbs.length), R.task (r.tasks.size + i) =
      { role := .database 2 dbs[i], callbacks := [.childDone r.groups.size] } := by
    intro i hi
    rw [← hR, task_startGroup_of_le _ _ _ (by simp)]
    simp [hi]
  have hRgrp : R.group r.groups.size =
      { owner := 2, live := List.range' r.tasks.size dbs.length } := by
    rw [← hR, group_startGroup]
    simp
  -- with members, the loader waits on them
  have hlive : ((R.setGroup r.groups.size fun x => { x with fut := none }).group r.groups.size).live ≠ [] := by
    rw [group_setGroup_self _ _ (by omega), hRgrp]
    simpa using hne
  rw [groupResume_eq, if_pos hlive]
  refine ⟨by simp [hRq], by simp [hRs], by simp [hRg], ?_, ?_, fun i hi => ?_, ?_⟩
  · rw [task_setTask_self _ _ (by simp; omega)]
    simp [hR2]
  · rw [task_setTask_self _ _ (by simp; omega)]
  · rw [task_setTask_ne _ _ (by omega)]
    simp [hRnew i hi]
  · rw [group_setTask, group_setGroup_self _ _ (by simp; omega)]
    simp [group_setGroup_self _ _ (show r.groups.size < R.groups.size by omega), hRgrp]

/-- **The loader's check of a group that recorded a failure** waits again while members are
live, and otherwise fails the loader with the group's first failure. -/
theorem loader_groupExit {g : Nat} {n s : String} {gen : Nat} {f : LoadFailure}
    {fs : List Failure} (hρ : (r.task 2).role = .loader n s gen) (hi : 2 < r.tasks.size)
    (hend : (r.task 2).ending = none) (herr : (r.group g).errors = .raise f :: fs) :
    (((r.groupExit 2 g th).task 2).ending = none ∧
        ((r.groupExit 2 g th).task 2).phase = .grouped g) ∨
      ((r.groupExit 2 g th).task 2).ending = some (.failed (.raise f)) := by
  have h₃ : Aside none r ((r.exitCancel g th).setGroup g fun x => { x with fut := none }) :=
    ((Aside.refl none r).exitCancel g th).setGroup (by intro; rfl)
  rw [groupExit_eq]
  have herr₃ := (h₃.errors g).trans herr
  have hrole := (h₃.role 2 hi).trans hρ
  have hend₃ := h₃.unended hend
  have hi₃ : 2 < ((r.exitCancel g th).setGroup g fun x => { x with fut := none }).tasks.size :=
    lt_of_lt_of_le hi h₃.size
  generalize (r.exitCancel g th).setGroup g (fun x => { x with fut := none }) = r₃ at herr₃ hrole hend₃ hi₃
  rw [groupResume_eq]
  split
  · -- members are live: the loader waits again
    refine .inl ⟨?_, ?_⟩ <;> rw [task_setTask_self _ _ (by simpa using hi₃)]
    simpa using hend₃
  · -- none is: the group's first failure fails the loader
    refine .inr ?_
    unfold groupEnd
    simp only [herr₃, List.isEmpty_cons, Bool.and_false, Bool.false_eq_true, ↓reduceIte,
      Bool.not_false, hrole, Failure.first]
    unfold loadFailed
    split <;> rw [task_finish_self _ _ (by simpa using hi₃)]

end Run

end SqlAssist.Schema
