import SqlAssist.Proofs.Schema.LoadFrames

/-!
# A task under the caller takes its step

A step of the loader, a database task or a column task is a short sequence of updates:
clear the task's flags, maybe cancel a group, then end the task, put it back in the
queue, or make it wait on its group.  Between the first and the last update the task is
*moving* (`Run.Moving`): the tree is as the invariant says and every other task will
run again, and only the moving task owes a way forward.  Each kind of update is one
lemma here, from a moving state to the next, or to a *settled* one (`Run.Settled`) in
which every task will run again.

## Main statements

* `LoadInv.moving`: a step sets its task moving.
* `LoadTree.cancels`, `Progress.cancels`: cancels of members and owners of aborting
  groups keep the tree and every task's progress.
* `LoadTree.regroup`, `LoadTree.regroupOne`: flags and failures the groups record keep the
  tree.
* `LoadTree.retask`: a change of one task keeps the tree, given what the tree reads of
  that task; ending it (`retask_finish`) and giving it a new phase (`retask_setTask`) are
  such changes.
* `Moving.finish`: ending the moving task settles the run.
* `Moving.yield`: a task that yields is put back in the queue.
* `Moving.wait`: a task waits on its group while members are live.
* `Moving.startGroup`: a task starts a group of new members (`NewGroup`) and checks it.
-/

namespace SqlAssist.Schema

namespace Run

variable {S : LoadSetting} {r r' : Run} {j : Nat}

/-- The tree as the invariant says, with every task under the caller to run again. -/
structure Settled (S : LoadSetting) (r : Run) : Prop where
  tree : r.LoadTree S
  progress : ∀ k, 2 ≤ k → k < r.tasks.size → r.Progress k

/-- Task `j` is in the middle of its step: the tree is as the invariant says, every
other task under the caller will run again, and `j` is a task under the caller that has
not ended. -/
structure Moving (S : LoadSetting) (r : Run) (j : Nat) : Prop where
  tree : r.LoadTree S
  progress : ∀ k, k ≠ j → 2 ≤ k → k < r.tasks.size → r.Progress k
  lower : 2 ≤ j
  lt : j < r.tasks.size
  unended : (r.task j).ending = none

/-! ## Starting a step -/

/-- **A step sets its task moving.**  Dropping the step from the queue and clearing the
task's flags leaves the tree as it was; only the task itself owes a way forward. -/
theorem LoadInv.moving (h : r.LoadInv S) {th : Bool} {rest : List Event}
    (hq : r.queue = .step j th :: rest) (hj : 2 ≤ j) (hlt : j < r.tasks.size)
    (hend : (r.task j).ending = none) :
    (({ r with queue := rest } : Run).setTask j
      fun t => { t with mustCancel := false, waitsOn := none }).Moving S j := by
  have hpop : ∀ x ∈ rest, x ∈ r.queue := fun x hx => by
    rw [hq]
    exact .tail _ hx
  have hold : ∀ x ∈ r.queue, x ≠ .step j th → x ∈ rest := fun x hx hne => by
    rw [hq] at hx
    exact (List.mem_cons.1 hx).resolve_left hne
  have htask : ∀ k, k ≠ j → (({ r with queue := rest } : Run).setTask j
      fun t => { t with mustCancel := false, waitsOn := none }).task k = r.task k :=
    fun k hk => by simp [Ne.symm hk]
  have htaskj : (({ r with queue := rest } : Run).setTask j
      fun t => { t with mustCancel := false, waitsOn := none }).task j =
      { r.task j with mustCancel := false, waitsOn := none } := by simp [hlt]
  refine ⟨h.tree.frame (by simp) (fun k _ => ?_) (fun k => ?_) rfl (fun _ _ => rfl)
    (fun g c => ⟨hpop _, fun hx => hold _ hx (by simp)⟩) (fun k _ hc => .inl ?_),
    fun k hk h2 hk' => ?_, hj, by simpa using hlt, by rw [htaskj]; exact hend⟩
  · by_cases hkj : k = j
    · subst hkj
      rw [htaskj]
      exact .clear _
    · rw [htask k hkj]
      exact .refl _
  · by_cases hkj : k = j
    · subst hkj
      rw [htaskj]
    · rw [htask k hkj]
  · by_cases hkj : k = j
    · subst hkj
      rw [htaskj] at hc
      exact hc.imp (fun hm => by simp at hm) (hpop _)
    · rw [htask k hkj] at hc
      exact hc.imp_right (hpop _)
  · -- another task keeps its queued step, which is not the one dropped
    refine (h.progress k h2 (by simpa using hk')).frame (.of_eq (htask k hk)) (by rw [htask k hk])
      (fun _ _ => ⟨rfl, rfl⟩) (fun _ _ _ => rfl) fun _ hs => hs.imp fun th' hx => hold _ hx ?_
    intro hx'
    exact hk (Event.step.inj hx').1

/-- A step resumed cancelled comes from an aborting group its task is a member or the
owner of. -/
theorem LoadInv.thrown_source (h : r.LoadInv S) {th : Bool} {rest : List Event}
    (hq : r.queue = .step j th :: rest) (hj : 2 ≤ j) (ht : (th || (r.task j).mustCancel) = true) :
    (∃ g < r.groups.size, r.Member g j ∧ (r.group g).aborting) ∨
      (∃ g < r.groups.size, (r.group g).owner = j ∧ (r.group g).aborting) := by
  refine h.tree.cancelSource j hj ?_
  cases th
  · exact .inl (by simpa using ht)
  · exact .inr (by rw [hq]; exact List.mem_cons_self)

/-- In a clean run no step resumes cancelled. -/
theorem LoadClean.not_thrown (h : r.LoadClean) {th : Bool} {rest : List Event}
    (hq : r.queue = .step j th :: rest) (hj : 2 ≤ j) : (th || (r.task j).mustCancel) = false := by
  obtain ⟨hmc, hq'⟩ := h.noCancel j hj
  cases th
  · simpa using hmc
  · exact absurd (by rw [hq]; exact List.mem_cons_self) hq'

/-- A moving task keeps moving through updates of the world and the stores alone. -/
theorem Moving.congr (h : r.Moving S j) (ht : r'.tasks = r.tasks) (hf : r'.futs = r.futs)
    (hg : r'.groups = r.groups) (hq : r'.queue = r.queue) : r'.Moving S j := by
  have htask : ∀ k, r'.task k = r.task k := task_eq_of_tasks ht
  have hfut : ∀ f, r'.fut f = r.fut f := fun f => by simp only [fut, hf]
  refine ⟨h.tree.frame (by rw [ht]) (fun k _ => .of_eq (htask k)) (fun k => by rw [htask])
    hg (fun f _ => hfut f) (fun g c => by rw [hq]) (fun k _ hc => .inl ?_),
    fun k hk h2 hlt => (h.progress k hk h2 (ht ▸ hlt)).frame (.of_eq (htask k)) (by rw [htask])
      (fun g _ => by rw [group_eq_of_groups hg]; exact ⟨rfl, rfl⟩) (fun f _ _ => hfut f)
      (fun _ hs => by rw [StepQueued, hq]; exact hs),
    h.lower, ht ▸ h.lt, by rw [htask]; exact h.unended⟩
  rw [htask, hq] at hc
  exact hc

/-! ## Cancels -/

section Cancels

variable {L : List Nat}

/-- A cancel reaches only tasks under the loader: members and owners of groups. -/
theorem LoadTree.two_le_of_cancel (h : r.LoadTree S) {c : Nat}
    (hc : (∃ g < r.groups.size, r.Member g c ∧ (r.group g).aborting) ∨
      (∃ g < r.groups.size, (r.group g).owner = c ∧ (r.group g).aborting)) : 2 ≤ c := by
  rcases hc with ⟨g, -, hm, -⟩ | ⟨g, hg, ho, -⟩
  · have := (h.member g c hm).1
    omega
  · exact ho ▸ (h.owner g hg).1

/-- **Cancels keep the tree**, when every cancelled task is a member or the owner of an
aborting group. -/
theorem LoadTree.cancels (h : r.LoadTree S) (hc : Cancels r r' L)
    (hL : ∀ c ∈ L, (∃ g < r.groups.size, r.Member g c ∧ (r.group g).aborting) ∨
      (∃ g < r.groups.size, (r.group g).owner = c ∧ (r.group g).aborting)) : r'.LoadTree S := by
  have hL2 : ∀ c ∈ L, 2 ≤ c := fun c hcL => h.two_le_of_cancel (hL c hcL)
  refine h.frame hc.size (fun k _ => ?_) (fun k => ?_) hc.groups (fun f hp => ?_)
    (fun g c => ⟨fun hx => ?_, hc.queueOld _⟩) (fun k _ hcan => ?_)
  · rcases hc.task k with ht | ⟨-, ht⟩ <;> rw [ht]
    · exact .refl _
    · exact .mark _
  · rcases hc.task k with ht | ⟨-, ht⟩ <;> rw [ht]
  · rcases hc.fut f with hf | ⟨-, -, hf⟩
    · exact hf
    · rw [hf] at hp
      cases hp
  · rcases hc.queueNew _ hx with hx' | ⟨f, -, -, w, -, hx'⟩
    · exact hx'
    · cases hx'
  · rcases hcan with hm | hx
    · rcases hc.task k with ht | ⟨hkL, -⟩
      · rw [ht] at hm
        exact .inl (.inl hm)
      · exact .inr (hL k hkL)
    · rcases hc.queueNew _ hx with hx' | ⟨f, hp, ⟨c, hcL, hw⟩, w, hwf, hx'⟩
      · exact .inl (.inr hx')
      · -- the woken waiter is the cancelled task that waited on the outcome
        obtain ⟨rfl, -⟩ := Event.step.inj hx'
        rw [h.waitsOn c f (hL2 c hcL) hw hp, List.mem_singleton] at hwf
        subst hwf
        exact .inr (hL _ hcL)

/-- **Cancels keep every task's progress**: a task whose outcome is cancelled is woken. -/
theorem Progress.cancels {k : Nat} (h : r.Progress k) (hc : Cancels r r' L) : r'.Progress k := by
  have hcalm : (r'.task k).Calmer (r.task k) ∧ (r'.task k).waitsOn = (r.task k).waitsOn := by
    rcases hc.task k with ht | ⟨-, ht⟩ <;> rw [ht]
    · exact ⟨.refl _, rfl⟩
    · exact ⟨.mark _, rfl⟩
  intro hend
  rw [hcalm.1.ending] at hend
  rcases h hend with ⟨th, hx⟩ | ⟨g, f, hph, hgf, hw, hp, hws, hlive⟩
  · exact .inl ⟨th, hc.queueOld _ hx⟩
  · have hg := group_eq_of_groups hc.groups g
    rcases hc.fut f with hf | ⟨-, -, hf⟩
    · refine .inr ⟨g, f, by rw [hcalm.1.phase]; exact hph, by rw [hg]; exact hgf,
        by rw [hcalm.2]; exact hw, by rw [hf]; exact hp, by rw [hf]; exact hws, by rw [hg]; exact hlive⟩
    · -- its outcome was cancelled, which woke it
      exact .inl ⟨true, hc.woken f hp (by rw [hf]) k (by rw [hws]; exact List.mem_singleton_self k)⟩

/-- A moving task keeps moving through cancels that spare it. -/
theorem Moving.cancels (h : r.Moving S j) (hc : Cancels r r' L)
    (hL : ∀ c ∈ L, (∃ g < r.groups.size, r.Member g c ∧ (r.group g).aborting) ∨
      (∃ g < r.groups.size, (r.group g).owner = c ∧ (r.group g).aborting)) : r'.Moving S j := by
  have hend : (r'.task j).ending = (r.task j).ending := by
    rcases hc.task j with ht | ⟨-, ht⟩ <;> rw [ht]
  exact ⟨h.tree.cancels hc hL, fun k hk h2 hlt => (h.progress k hk h2 (hc.size ▸ hlt)).cancels hc,
    h.lower, hc.size ▸ h.lt, hend ▸ h.unended⟩

/-- A settled run stays settled through cancels. -/
theorem Settled.cancels (h : r.Settled S) (hc : Cancels r r' L)
    (hL : ∀ c ∈ L, (∃ g < r.groups.size, r.Member g c ∧ (r.group g).aborting) ∨
      (∃ g < r.groups.size, (r.group g).owner = c ∧ (r.group g).aborting)) : r'.Settled S :=
  ⟨h.tree.cancels hc hL, fun k h2 hlt => (h.progress k h2 (hc.size ▸ hlt)).cancels hc⟩

end Cancels

/-! ## What a group records -/

/-- **What a group records keeps the tree.**  A change of the groups alone that keeps
their owners and live members, clears or keeps their pending outcomes, adds failures
that name a first failure, keeps every abort and aborts only for a reason, and marks an
owner cancelled from outside only when a group it is a member of aborts, keeps the
tree. -/
theorem LoadTree.regroup (h : r.LoadTree S) (ht : r'.tasks = r.tasks) (hf : r'.futs = r.futs)
    (hq : r'.queue = r.queue) (hsize : r'.groups.size = r.groups.size)
    (hkeep : ∀ g, (r'.group g).owner = (r.group g).owner ∧ (r'.group g).live = (r.group g).live)
    (hfut : ∀ g f, (r'.group g).fut = some f → (r.group g).fut = some f)
    (herrors : ∀ g, ∃ es, (r'.group g).errors = (r.group g).errors ++ es ∧ ∀ f ∈ es, f.first ≠ none)
    (haborting : ∀ g, (r.group g).aborting → (r'.group g).aborting)
    (hreason : ∀ g < r.groups.size, (r'.group g).aborting →
      (r'.group g).errors ≠ [] ∨ (r'.group g).outsideCancel)
    (houtside : ∀ g < r.groups.size, (r'.group g).outsideCancel → (r.group g).outsideCancel ∨
      ∃ g' < r.groups.size, r.Member g' (r.group g).owner ∧ (r'.group g').aborting) :
    r'.LoadTree S := by
  have htask : ∀ k, r'.task k = r.task k := task_eq_of_tasks ht
  have hfut' : ∀ f, r'.fut f = r.fut f := fun f => by simp only [fut, hf]
  have hmem : ∀ g c, r'.Member g c ↔ r.Member g c := fun g c => member_iff (by rw [htask])
  -- recorded failures are never taken back
  have hne : ∀ g, (r.group g).errors ≠ [] → (r'.group g).errors ≠ [] := fun g he => by
    obtain ⟨es, hes, -⟩ := herrors g
    rw [hes]
    exact fun hnil => he (List.append_eq_nil_iff.1 hnil).1
  refine
    { shape := fun j h2 hj => ?_
      fresh := fun he hph => ?_
      sub := fun j h3 hj => ?_
      member := fun g c hm => ?_
      owner := fun g hg => ?_
      grouped := fun j g h2 hph => ?_
      live := fun g hg => ?_
      livePending := fun g hg c hc => ?_
      noted := fun g hg c hc hm hnl => ?_
      childDone := fun g c hx => ?_
      groupFut := fun g hg f hgf hp => ?_
      waitsOn := fun j f h2 hw hp => ?_
      errors := fun g hg f hfe => ?_
      failed := fun j f h2 he => ?_
      abortReason := fun g hg ha => ?_
      outside := fun g hg ho => ?_
      cancelled := fun g hg c hm he => ?_
      cancelSource := fun j h2 hc => ?_ }
  · rw [htask]
    exact h.shape j h2 (by rwa [ht] at hj)
  · rw [htask] at he hph
    rw [ht, hsize]
    exact h.fresh he hph
  · obtain ⟨g, hg, hm⟩ := h.sub j h3 (by rwa [ht] at hj)
    exact ⟨g, hsize ▸ hg, (hmem g j).2 hm⟩
  · rw [ht, hsize]
    exact h.member g c ((hmem g c).1 hm)
  · rw [hsize] at hg
    rw [(hkeep g).1, ht, htask]
    exact h.owner g hg
  · rw [htask] at hph
    rw [hsize, (hkeep g).1]
    exact h.grouped j g h2 hph
  · rw [hsize] at hg
    rw [(hkeep g).1, (hkeep g).2, ht]
    obtain ⟨hnd, hc⟩ := h.live g hg
    refine ⟨hnd, fun c hc' => ?_⟩
    obtain ⟨hm, ho, hl⟩ := hc c hc'
    exact ⟨(hmem g c).2 hm, ho, hl⟩
  · rw [hsize] at hg
    rw [(hkeep g).2] at hc
    rw [htask, hq]
    exact h.livePending g hg c hc
  · rw [hsize] at hg
    rw [ht] at hc
    rw [(hkeep g).2] at hnl
    rw [htask]
    obtain ⟨he, hok⟩ := h.noted g hg c hc ((hmem g c).1 hm) hnl
    exact ⟨he, hok.imp_right (Or.imp (hne g) (haborting g))⟩
  · rw [hq] at hx
    rw [hsize, ht, hmem, htask]
    exact h.childDone g c hx
  · rw [hsize] at hg
    rw [hfut'] at hp ⊢
    rw [(hkeep g).1]
    exact h.groupFut g hg f (hfut g f hgf) hp
  · rw [htask] at hw
    rw [hfut'] at hp ⊢
    exact h.waitsOn j f h2 hw hp
  · rw [hsize] at hg
    obtain ⟨es, hes, hes'⟩ := herrors g
    rw [hes] at hfe
    rcases List.mem_append.1 hfe with hfe | hfe
    · exact h.errors g hg f hfe
    · exact hes' f hfe
  · rw [htask] at he
    exact h.failed j f h2 he
  · rw [hsize] at hg
    exact hreason g hg ha
  · rw [hsize] at hg
    rw [(hkeep g).1]
    rcases houtside g hg ho with ho' | ⟨g', hg', hm, ha⟩
    · obtain ⟨g', hg', hm, ha⟩ := h.outside g hg ho'
      exact ⟨g', hsize ▸ hg', (hmem _ _).2 hm, haborting g' ha⟩
    · exact ⟨g', hsize ▸ hg', (hmem _ _).2 hm, ha⟩
  · rw [hsize] at hg
    rw [htask] at he
    exact haborting g (h.cancelled g hg c ((hmem g c).1 hm) he)
  · rw [htask, hq] at hc
    rcases h.cancelSource j h2 hc with ⟨g, hg, hm, ha⟩ | ⟨g, hg, ho, ha⟩
    · exact .inl ⟨g, hsize ▸ hg, (hmem g j).2 hm, haborting g ha⟩
    · exact .inr ⟨g, hsize ▸ hg, by rw [(hkeep g).1]; exact ho, haborting g ha⟩

/-- Updating one group leaves every other group as it was. -/
theorem group_setGroup_cases (r : Run) (g : Nat) (F : Group → Group) (g₀ : Nat) :
    (r.setGroup g F).group g₀ = r.group g₀ ∨
      g₀ = g ∧ (r.setGroup g F).group g₀ = F (r.group g) := by
  by_cases hgg : g₀ = g
  · subst hgg
    by_cases hg : g₀ < r.groups.size
    · exact .inr ⟨rfl, group_setGroup_self r F hg⟩
    · exact .inl (by rw [setGroup_of_size_le r F (Nat.le_of_not_lt hg)])
  · exact .inl (group_setGroup_ne r F (Ne.symm hgg))

/-- Updating one group of a run reads, at every index, as the update of that group. -/
theorem group_setGroup_of_lt {g : Nat} {F : Group → Group} (hg : g < r.groups.size) (g₀ : Nat) :
    (r.setGroup g F).group g₀ = if g₀ = g then F (r.group g) else r.group g₀ := by
  rw [group_setGroup]
  by_cases hg₀ : g₀ = g
  · subst hg₀
    simp [hg]
  · simp [Ne.symm hg₀, hg₀]

/-- **What one group records keeps the tree**: an update of group `g` that keeps its
owner and live members, at most clears its outcome, adds failures that name a first
failure, keeps an abort and aborts only for a reason, and marks its owner cancelled from
outside only when a group the owner is a member of aborts. -/
theorem LoadTree.regroupOne (h : r.LoadTree S) {g : Nat} {F : Group → Group}
    (hkeep : (F (r.group g)).owner = (r.group g).owner ∧ (F (r.group g)).live = (r.group g).live)
    (hfut : ∀ f, (F (r.group g)).fut = some f → (r.group g).fut = some f)
    (herrors : ∃ es, (F (r.group g)).errors = (r.group g).errors ++ es ∧ ∀ f ∈ es, f.first ≠ none)
    (haborting : (r.group g).aborting → (F (r.group g)).aborting)
    (hreason : g < r.groups.size → (F (r.group g)).aborting →
      (F (r.group g)).errors ≠ [] ∨ (F (r.group g)).outsideCancel)
    (houtside : g < r.groups.size → (F (r.group g)).outsideCancel → (r.group g).outsideCancel ∨
      ∃ g' < r.groups.size, r.Member g' (r.group g).owner ∧ ((r.setGroup g F).group g').aborting) :
    (r.setGroup g F).LoadTree S := by
  -- each condition is the hypothesis at `g`, and holds as it did at every other group
  refine h.regroup rfl rfl rfl (setGroup_size r F) (fun g₀ => ?_) (fun g₀ f hf => ?_)
    (fun g₀ => ?_) (fun g₀ ha => ?_) (fun g₀ hg₀ ha => ?_) fun g₀ hg₀ ho => ?_
  · rcases group_setGroup_cases r g F g₀ with hv | ⟨rfl, hv⟩ <;> rw [hv]
    · exact ⟨rfl, rfl⟩
    · exact hkeep
  · rcases group_setGroup_cases r g F g₀ with hv | ⟨rfl, hv⟩ <;> rw [hv] at hf
    · exact hf
    · exact hfut f hf
  · rcases group_setGroup_cases r g F g₀ with hv | ⟨rfl, hv⟩ <;> rw [hv]
    · exact ⟨[], by simp, by simp⟩
    · exact herrors
  · rcases group_setGroup_cases r g F g₀ with hv | ⟨rfl, hv⟩ <;> rw [hv]
    · exact ha
    · exact haborting ha
  · rcases group_setGroup_cases r g F g₀ with hv | ⟨rfl, hv⟩ <;> rw [hv] at ha ⊢
    · exact h.abortReason g₀ hg₀ ha
    · exact hreason hg₀ ha
  · rcases group_setGroup_cases r g F g₀ with hv | ⟨rfl, hv⟩ <;> rw [hv] at ho
    · exact .inl ho
    · exact houtside hg₀ ho

/-- Every task but the moving one keeps its progress through a change of the groups
alone that keeps the outcome and the live members of every group the moving task does
not own. -/
theorem Moving.regroup (h : r.Moving S j) (htree : r'.LoadTree S) (ht : r'.tasks = r.tasks)
    (hf : r'.futs = r.futs) (hq : r'.queue = r.queue)
    (hgroup : ∀ g, (r.group g).owner ≠ j →
      (r'.group g).fut = (r.group g).fut ∧ (r'.group g).live = (r.group g).live) :
    r'.Moving S j := by
  have htask : ∀ k, r'.task k = r.task k := task_eq_of_tasks ht
  refine ⟨htree, fun k hk h2 hlt => ?_, h.lower, ht ▸ h.lt, by rw [htask]; exact h.unended⟩
  refine (h.progress k hk h2 (ht ▸ hlt)).frame (.of_eq (htask k)) (by rw [htask])
    (fun g hph => hgroup g ?_) (fun f _ _ => by simp only [fut, hf])
    (fun _ hs => by rw [StepQueued, hq]; exact hs)
  -- the group a task checks is its own, not the moving task's
  rw [(h.tree.grouped k g h2 hph).2]
  exact hk

/-! ## One task changed -/

/-- Run `r'` is `r` with task `j` alone changed, its callbacks kept, and the events
`extra` queued after the old ones; every group and every outcome is as it was. -/
structure Retask (r r' : Run) (j : Nat) (extra : List Event) : Prop where
  size : r'.tasks.size = r.tasks.size
  other : ∀ k, k ≠ j → r'.task k = r.task k
  callbacks : (r'.task j).callbacks = (r.task j).callbacks
  groups : r'.groups = r.groups
  futs : r'.futs = r.futs
  queue : r'.queue = r.queue ++ extra

namespace Retask

variable {extra : List Event}

theorem task_eq_or (h : r.Retask r' j extra) (k : Nat) : k = j ∨ r'.task k = r.task k := by
  by_cases hk : k = j
  · exact .inl hk
  · exact .inr (h.other k hk)

theorem member (h : r.Retask r' j extra) (g c : Nat) : r'.Member g c ↔ r.Member g c := by
  refine member_iff ?_
  rcases h.task_eq_or c with rfl | ht
  · exact h.callbacks
  · rw [ht]

theorem group (h : r.Retask r' j extra) (g : Nat) : r'.group g = r.group g :=
  group_eq_of_groups h.groups g

theorem fut (h : r.Retask r' j extra) (f : Nat) : r'.fut f = r.fut f := by
  simp only [Run.fut, h.futs]

theorem gsize (h : r.Retask r' j extra) : r'.groups.size = r.groups.size := by
  rw [h.groups]

theorem mem_queue (h : r.Retask r' j extra) {x : Event} (hx : x ∈ r.queue) : x ∈ r'.queue := by
  rw [h.queue]
  exact List.mem_append_left _ hx

/-- Queuing one more event keeps the change to one task. -/
theorem enqueue (h : r.Retask r' j extra) (e : Event) :
    r.Retask (r'.enqueue e) j (extra ++ [e]) where
  size := h.size
  other := h.other
  callbacks := h.callbacks
  groups := h.groups
  futs := h.futs
  queue := by rw [enqueue_queue, h.queue, List.append_assoc]

end Retask

/-- An update of one task that keeps its callbacks changes that task alone. -/
theorem retask_setTask {f : Task → Task} (hf : ∀ t, (f t).callbacks = t.callbacks) :
    r.Retask (r.setTask j f) j [] where
  size := setTask_size ..
  other k hk := task_setTask_ne _ _ (Ne.symm hk)
  callbacks := by
    rw [task_setTask]
    split
    · exact hf _
    · rfl
  groups := rfl
  futs := rfl
  queue := (List.append_nil _).symm

/-- Ending a task changes it alone and queues what its callbacks ask. -/
theorem retask_finish (e : Ending) :
    r.Retask (r.finish j e) j ((r.task j).callbacks.map (Callback.event j)) where
  size := finish_size r e
  other k hk := task_finish_ne r e (Ne.symm hk)
  callbacks := by
    rw [task_finish]
    split <;> rfl
  groups := finish_groups r e
  futs := finish_futs r e
  queue := finish_queue r e

section OneTask

variable {extra : List Event}

/-- **The tree carries over a change of one task under the caller**, given what each part
of the tree reads of that task: its shape and the group it checks, its end and what the
end owes its groups, what it waits on and what it must cancel; the events queued after
the old ones are its own step and the noting of its end. -/
theorem LoadTree.retask (h : r.LoadTree S) (hr : r.Retask r' j extra)
    (hshape : S.Shape j (r'.task j))
    (hfresh : j = 2 → (r'.task 2).ending = none →
      ((r'.task 2).phase = .start ∨ ∃ o, (r'.task 2).phase = .gotNames o) →
      r.tasks.size = 3 ∧ r.groups.size = 0)
    (howner : ∀ g < r.groups.size, (r.group g).owner = j →
      (r'.task j).phase = .grouped g ∨ (r'.task j).ending.isSome)
    (hgrouped : ∀ g, (r'.task j).phase = .grouped g → g < r.groups.size ∧ (r.group g).owner = j)
    (hlive : ∀ g < r.groups.size, j ∈ (r.group g).live →
      (r'.task j).ending = none ∨ .childDone g j ∈ r'.queue)
    (hnoted : ∀ g < r.groups.size, r.Member g j → j ∉ (r.group g).live →
      (r'.task j).ending.isSome ∧
        ((r'.task j).ending = some .ok ∨ (r.group g).errors ≠ [] ∨ (r.group g).aborting))
    (hended : (r.task j).ending.isSome → (r'.task j).ending.isSome)
    (hextra : ∀ x ∈ extra, x.under = true →
      x = .step j false ∨ ∃ g, x = .childDone g j ∧ r.Member g j ∧ (r'.task j).ending.isSome)
    (hwaits : ∀ f, (r'.task j).waitsOn = some f → (r.fut f).state = .pending →
      (r.fut f).waiters = [j])
    (hfailed : ∀ f, (r'.task j).ending = some (.failed f) → f.first ≠ none)
    (hcancelled : ∀ g < r.groups.size, r.Member g j → (r'.task j).ending = some .cancelled →
      (r.group g).aborting)
    (hmust : (r'.task j).mustCancel = (r.task j).mustCancel) : r'.LoadTree S := by
  have hsize := hr.size
  have hgsize := hr.gsize
  have hgroup := hr.group
  have hmem := hr.member
  -- an event under the caller is an old one, the task's own step, or the noting of its end
  have hq : ∀ x ∈ r'.queue, x.under = true → x ∈ r.queue ∨ x = .step j false ∨
      ∃ g, x = .childDone g j ∧ r.Member g j ∧ (r'.task j).ending.isSome := fun x hx hu => by
    rw [hr.queue] at hx
    rcases List.mem_append.1 hx with hx | hx
    · exact .inl hx
    · exact .inr (hextra x hx hu)
  refine
    { shape := fun k h2 hk => ?_
      fresh := fun he hph => ?_
      sub := fun k h3 hk => ?_
      member := fun g c hm => ?_
      owner := fun g hg => ?_
      grouped := fun k g h2 hph => ?_
      live := fun g hg => ?_
      livePending := fun g hg c hc => ?_
      noted := fun g hg c hc hm hnl => ?_
      childDone := fun g c hx => ?_
      groupFut := fun g hg f hgf hp => ?_
      waitsOn := fun k f h2 hw hp => ?_
      errors := fun g hg => ?_
      failed := fun k f h2 he => ?_
      abortReason := fun g hg ha => ?_
      outside := fun g hg ho => ?_
      cancelled := fun g hg c hm he => ?_
      cancelSource := fun k h2 hc => ?_ }
  · rcases hr.task_eq_or k with rfl | ht
    · exact hshape
    · rw [ht]
      exact h.shape k h2 (hsize ▸ hk)
  · rw [hsize, hgsize]
    rcases hr.task_eq_or 2 with h2 | ht
    · exact hfresh h2.symm he hph
    · rw [ht] at he hph
      exact h.fresh he hph
  · obtain ⟨g, hg, hm⟩ := h.sub k h3 (hsize ▸ hk)
    exact ⟨g, hgsize ▸ hg, (hmem g k).2 hm⟩
  · rw [hsize, hgsize]
    exact h.member g c ((hmem g c).1 hm)
  · rw [hgsize] at hg
    obtain ⟨h2, hlt, hph⟩ := h.owner g hg
    rw [hgroup, hsize]
    refine ⟨h2, hlt, ?_⟩
    rcases hr.task_eq_or (r.group g).owner with ho | ht
    · rw [ho]
      exact howner g hg ho
    · rw [ht]
      exact hph
  · rw [hgsize, hgroup]
    rcases hr.task_eq_or k with rfl | ht
    · exact hgrouped g hph
    · rw [ht] at hph
      exact h.grouped k g h2 hph
  · rw [hgsize] at hg
    rw [hgroup, hsize]
    obtain ⟨hnd, hc⟩ := h.live g hg
    refine ⟨hnd, fun c hc' => ?_⟩
    obtain ⟨hm, ho, hl⟩ := hc c hc'
    exact ⟨(hmem g c).2 hm, ho, hl⟩
  · rw [hgsize] at hg
    rw [hgroup] at hc
    rcases hr.task_eq_or c with rfl | ht
    · exact hlive g hg hc
    · rw [ht]
      exact (h.livePending g hg c hc).imp_right hr.mem_queue
  · rw [hgsize] at hg
    rw [hsize] at hc
    rw [hgroup] at hnl ⊢
    rcases hr.task_eq_or c with rfl | ht
    · exact hnoted g hg ((hmem g c).1 hm) hnl
    · rw [ht]
      exact h.noted g hg c hc ((hmem g c).1 hm) hnl
  · rw [hgsize, hsize, hmem]
    rcases hq _ hx rfl with hx' | hx' | ⟨g', hx', hm, hend⟩
    · obtain ⟨hg, hc, hm, he⟩ := h.childDone g c hx'
      refine ⟨hg, hc, hm, ?_⟩
      rcases hr.task_eq_or c with rfl | ht
      · exact hended he
      · rw [ht]
        exact he
    · cases hx'
    · -- the noting of the changed task's own end
      obtain ⟨rfl, rfl⟩ := Event.childDone.inj hx'
      obtain ⟨-, hc, hg⟩ := h.member g c hm
      exact ⟨hg, hc, hm, hend⟩
  · rw [hgsize] at hg
    rw [hgroup] at hgf ⊢
    rw [hr.fut] at hp ⊢
    exact h.groupFut g hg f hgf hp
  · rw [hr.fut] at hp ⊢
    rcases hr.task_eq_or k with rfl | ht
    · exact hwaits f hw hp
    · rw [ht] at hw
      exact h.waitsOn k f h2 hw hp
  · rw [hgsize] at hg
    rw [hgroup]
    exact h.errors g hg
  · rcases hr.task_eq_or k with rfl | ht
    · exact hfailed f he
    · rw [ht] at he
      exact h.failed k f h2 he
  · rw [hgsize] at hg
    rw [hgroup] at ha ⊢
    exact h.abortReason g hg ha
  · rw [hgsize] at hg
    rw [hgroup] at ho ⊢
    obtain ⟨g', hg', hm, ha⟩ := h.outside g hg ho
    exact ⟨g', hgsize ▸ hg', (hmem _ _).2 hm, by rw [hgroup]; exact ha⟩
  · rw [hgsize] at hg
    rw [hgroup]
    have hm' := (hmem g c).1 hm
    rcases hr.task_eq_or c with rfl | ht
    · exact hcancelled g hg hm' he
    · rw [ht] at he
      exact h.cancelled g hg c hm' he
  · -- a cancel reaches the tree only as it did: no new step resumes cancelled
    have hc' : (r.task k).mustCancel = true ∨ .step k true ∈ r.queue := by
      have hmk : (r'.task k).mustCancel = (r.task k).mustCancel := by
        rcases hr.task_eq_or k with rfl | ht
        · exact hmust
        · rw [ht]
      rw [hmk] at hc
      refine hc.imp_right fun hx => ?_
      rcases hq _ hx (by simpa [Event.under] using h2) with hx' | hx' | ⟨g, hx', -⟩
      · exact hx'
      · cases hx'
      · cases hx'
    rcases h.cancelSource k h2 hc' with ⟨g, hg, hm, ha⟩ | ⟨g, hg, ho, ha⟩
    · exact .inl ⟨g, hgsize ▸ hg, (hmem g k).2 hm, by rw [hgroup]; exact ha⟩
    · exact .inr ⟨g, hgsize ▸ hg, by rw [hgroup]; exact ho, by rw [hgroup]; exact ha⟩

/-- Every other task keeps its progress through a change of one task. -/
theorem Progress.retask {k : Nat} (h : r.Progress k) (hr : r.Retask r' j extra) (hk : k ≠ j) :
    r'.Progress k :=
  h.frame (.of_eq (hr.other k hk)) (by rw [hr.other k hk])
    (fun g _ => by rw [hr.group]; exact ⟨rfl, rfl⟩) (fun f _ _ => hr.fut f)
    fun _ hs => hs.imp fun _ hx => hr.mem_queue hx

end OneTask

/-! ## Ending, yielding -/

/-- **Ending the moving task settles the run.**  The task is a member of a group, whose
noting of its end its one callback queues, or its callbacks queue nothing under the
caller; a cancelled member is one of an aborting group, and a failure names a first
failure. -/
theorem Moving.finish (h : r.Moving S j) {e : Ending}
    (hcb : (∃ g, r.Member g j) ∨
      ∀ x ∈ (r.task j).callbacks.map (Callback.event j), x.under = false)
    (hcancel : ∀ g, r.Member g j → e = .cancelled → (r.group g).aborting)
    (hfail : ∀ f, e = .failed f → f.first ≠ none) : (r.finish j e).Settled S := by
  have hr := retask_finish (r := r) (j := j) e
  have htaskj : (r.finish j e).task j = { r.task j with ending := some e, waitsOn := none } :=
    task_finish_self r e h.lt
  -- a group that had noted the task's end would have seen it end
  have hunnoted : ∀ g < r.groups.size, r.Member g j → j ∉ (r.group g).live → False :=
    fun g hg hm hnl => by simpa [h.unended] using (h.tree.noted g hg j h.lt hm hnl).1
  refine ⟨h.tree.retask hr ?shape ?fresh ?owner ?grouped ?live ?noted ?ended ?extra ?waits
    ?failed ?cancelled ?must, fun k h2 hk => ?progress⟩
  case shape =>
    rw [htaskj]
    exact h.tree.shape j h.lower h.lt
  case fresh =>
    intro hj2 he
    subst hj2
    rw [htaskj] at he
    cases he
  case owner =>
    intro g _ _
    rw [htaskj]
    exact .inr rfl
  case grouped =>
    intro g hph
    rw [htaskj] at hph
    exact h.tree.grouped j g h.lower hph
  case live =>
    -- the ended member's end is queued for its group
    intro g hg hc
    have hm := ((h.tree.live g hg).2 j hc).1
    refine .inr ?_
    rw [finish_queue, hm]
    exact List.mem_append_right _ (List.mem_singleton_self _)
  case noted => exact fun g hg hm hnl => (hunnoted g hg hm hnl).elim
  case ended =>
    intro _
    rw [htaskj]
    rfl
  case extra =>
    -- a member queues the noting of its end; nothing else it queues is under the caller
    intro x hx hu
    rcases hcb with ⟨g, hm⟩ | hno
    · rw [hm] at hx
      refine .inr ⟨g, List.mem_singleton.1 hx, hm, ?_⟩
      rw [htaskj]
      rfl
    · rw [hno x hx] at hu
      cases hu
  case waits =>
    intro f hw
    rw [htaskj] at hw
    cases hw
  case failed =>
    intro f he
    rw [htaskj] at he
    exact hfail f (Option.some.inj he)
  case cancelled =>
    intro g _ hm he
    rw [htaskj] at he
    exact hcancel g hm (Option.some.inj he)
  case must => rw [htaskj]
  case progress =>
    by_cases hkj : k = j
    · subst hkj
      intro he
      rw [htaskj] at he
      cases he
    · exact (h.progress k hkj h2 (hr.size ▸ hk)).retask hr hkj

/-- **A task that yields is put back in the queue**, holding the answer it resumes
with.  It was at its start, so it owns no group. -/
theorem Moving.yield (h : r.Moving S j) (hstart : (r.task j).phase = .start) {p : Phase}
    (hshape : S.Shape j { r.task j with phase := p }) (hp : ∀ g, p ≠ .grouped g) :
    ((r.setTask j fun t => { t with phase := p }).enqueue (.step j false)).Settled S := by
  have hr := (retask_setTask (r := r) (j := j) (f := fun t => { t with phase := p })
    fun _ => rfl).enqueue (.step j false)
  have htaskj : ((r.setTask j fun t => { t with phase := p }).enqueue (.step j false)).task j =
      { r.task j with phase := p } := by simp [h.lt]
  refine ⟨h.tree.retask hr ?shape ?fresh ?owner ?grouped ?live ?noted ?ended ?extra ?waits
    ?failed ?cancelled ?must, fun k h2 hk => ?progress⟩
  case shape =>
    rw [htaskj]
    exact hshape
  case fresh =>
    -- a loader that yields had started, and nothing was under it yet
    intro hj2 _ _
    subst hj2
    exact h.tree.fresh h.unended (.inl hstart)
  case owner =>
    -- the yielding task owns no group: an owner checks its group until it ends
    intro g hg ho
    rcases (h.tree.owner g hg).2.2 with hph | hended
    · rw [ho, hstart] at hph
      cases hph
    · rw [ho, h.unended] at hended
      cases hended
  case grouped =>
    intro g hph
    rw [htaskj] at hph
    exact absurd hph (hp g)
  case live =>
    intro g _ _
    rw [htaskj]
    exact .inl h.unended
  case noted =>
    intro g hg hm hnl
    rw [htaskj]
    exact h.tree.noted g hg j h.lt hm hnl
  case ended =>
    intro he
    rw [htaskj]
    exact he
  case extra =>
    -- the one new event is the task's own step
    intro x hx _
    simp only [List.nil_append, List.mem_singleton] at hx
    exact .inl hx
  case waits =>
    intro f hw hpend
    rw [htaskj] at hw
    exact h.tree.waitsOn j f h.lower hw hpend
  case failed =>
    intro f he
    rw [htaskj] at he
    exact h.tree.failed j f h.lower he
  case cancelled =>
    intro g hg hm he
    rw [htaskj] at he
    exact h.tree.cancelled g hg j hm he
  case must => rw [htaskj]
  case progress =>
    by_cases hkj : k = j
    · subst hkj
      exact fun _ => .inl ⟨false, by simp⟩
    · exact (h.progress k hkj h2 (hr.size ▸ hk)).retask hr hkj

/-! ## Waiting on a group -/

/-- An outcome with a waiter is one of the run's. -/
theorem lt_of_waiters {f : Nat} (h : (r.fut f).waiters ≠ []) : f < r.futs.size := by
  by_contra hf
  rw [fut_of_size_le r (Nat.le_of_not_lt hf)] at h
  exact h rfl

/-- **A task waits on its group while members are live**: a new pending outcome, which
only it waits on, becomes the group's. -/
theorem Moving.wait (h : r.Moving S j) {g : Nat} (hg : g < r.groups.size)
    (hown : (r.group g).owner = j) (hph : (r.task j).phase = .grouped g)
    (hlive : (r.group g).live ≠ []) :
    (((r.newFut j).1.setGroup g fun x => { x with fut := some r.futs.size }).setTask j
      fun t => { t with phase := .grouped g, waitsOn := some r.futs.size }).Settled S := by
  have hlt := h.lt
  have htask : ∀ k, k ≠ j → (((r.newFut j).1.setGroup g fun x => { x with fut := some r.futs.size }).setTask j
      fun t => { t with phase := .grouped g, waitsOn := some r.futs.size }).task k = r.task k :=
    fun k hk => by simp [Ne.symm hk]
  have htaskj : (((r.newFut j).1.setGroup g fun x => { x with fut := some r.futs.size }).setTask j
      fun t => { t with phase := .grouped g, waitsOn := some r.futs.size }).task j =
      { r.task j with waitsOn := some r.futs.size } := by
    rw [task_setTask_self _ _ (by simpa using hlt)]
    simp only [task_setGroup, task_newFut]
    rw [← hph]
  have hfut : ∀ f, (((r.newFut j).1.setGroup g fun x => { x with fut := some r.futs.size }).setTask j
      fun t => { t with phase := .grouped g, waitsOn := some r.futs.size }).fut f =
      if f = r.futs.size then { waiters := [j] } else r.fut f := fun f => fut_newFut r j
  have hgroup : ∀ g', (((r.newFut j).1.setGroup g fun x => { x with fut := some r.futs.size }).setTask j
      fun t => { t with phase := .grouped g, waitsOn := some r.futs.size }).group g' =
      if g' = g then { r.group g with fut := some r.futs.size } else r.group g' := fun g' => by
    change ((r.newFut j).1.setGroup g fun x => { x with fut := some r.futs.size }).group g' = _
    rw [group_setGroup, group_newFut]
    by_cases hg' : g' = g
    · subst hg'
      simp [hg]
    · simp [Ne.symm hg', hg']
  have hq : (((r.newFut j).1.setGroup g fun x => { x with fut := some r.futs.size }).setTask j
      fun t => { t with phase := .grouped g, waitsOn := some r.futs.size }).queue = r.queue := rfl
  have hsize : (((r.newFut j).1.setGroup g fun x => { x with fut := some r.futs.size }).setTask j
      fun t => { t with phase := .grouped g, waitsOn := some r.futs.size }).tasks.size =
      r.tasks.size := by simp
  have hgsize : (((r.newFut j).1.setGroup g fun x => { x with fut := some r.futs.size }).setTask j
      fun t => { t with phase := .grouped g, waitsOn := some r.futs.size }).groups.size =
      r.groups.size := by simp
  generalize ((r.newFut j).1.setGroup g fun x => { x with fut := some r.futs.size }).setTask j
      (fun t => { t with phase := .grouped g, waitsOn := some r.futs.size }) = r'
    at htask htaskj hfut hgroup hq hsize hgsize ⊢
  -- the task keeps its standing; only what it waits on changes
  have hcalm : ∀ k, (r'.task k).standing = (r.task k).standing ∧
      (r'.task k).mustCancel = (r.task k).mustCancel := fun k => by
    by_cases hkj : k = j
    · subst hkj
      rw [htaskj]
      exact ⟨rfl, rfl⟩
    · rw [htask k hkj]
      exact ⟨rfl, rfl⟩
  have hrole := fun k => (Task.standing_eq (hcalm k).1).1
  have hphase := fun k => (Task.standing_eq (hcalm k).1).2.1
  have hend := fun k => (Task.standing_eq (hcalm k).1).2.2.1
  have hcb := fun k => (Task.standing_eq (hcalm k).1).2.2.2
  have hmem : ∀ g c, r'.Member g c ↔ r.Member g c := fun g c => member_iff (hcb c)
  -- every group keeps its members, failures and flags
  have hsame : ∀ g', (r'.group g').owner = (r.group g').owner ∧ (r'.group g').live = (r.group g').live ∧
      (r'.group g').errors = (r.group g').errors ∧ (r'.group g').aborting = (r.group g').aborting ∧
      (r'.group g').outsideCancel = (r.group g').outsideCancel := fun g' => by
    rw [hgroup]
    split <;> simp_all
  -- an outcome that a task waits on is an old one, or the new one
  have hold : ∀ f, (r.fut f).waiters ≠ [] → r'.fut f = r.fut f := fun f hw => by
    rw [hfut, if_neg (Nat.ne_of_lt (lt_of_waiters hw))]
  -- a pending outcome is the new one, pending from the start, or a pending old one
  have hpend : ∀ f, (r'.fut f).state = .pending → (r.fut f).state = .pending := fun f hp => by
    by_cases hf : f = r.futs.size
    · rw [fut_of_size_le r (by omega)]
      rfl
    · rwa [hfut, if_neg hf] at hp
  refine ⟨
    { shape := fun k h2 hk => ?shape
      fresh := fun he hph' => ?fresh
      sub := fun k h3 hk => ?sub
      member := fun g c hm => ?member
      owner := fun g hg => ?owner
      grouped := fun k g h2 hph' => ?grouped
      live := fun g hg => ?live
      livePending := fun g hg c hc => ?livePending
      noted := fun g hg c hc hm hnl => ?noted
      childDone := fun g c hx => ?childDone
      groupFut := fun g' hg' f hgf hp => ?groupFut
      waitsOn := fun k f h2 hw hp => ?waitsOn
      errors := fun g hg => ?errors
      failed := fun k f h2 he => ?failed
      abortReason := fun g hg ha => ?abortReason
      outside := fun g hg ho => ?outside
      cancelled := fun g hg c hm he => ?cancelled
      cancelSource := fun k h2 hc => ?cancelSource }, fun k h2 hk => ?progress⟩
  case shape =>
    rw [LoadSetting.Shape.congr (hrole k) (hphase k)]
    exact h.tree.shape k h2 (hsize ▸ hk)
  case fresh =>
    rw [hend] at he
    rw [hphase] at hph'
    rw [hsize, hgsize]
    exact h.tree.fresh he hph'
  case sub =>
    obtain ⟨g, hg, hm⟩ := h.tree.sub k h3 (hsize ▸ hk)
    exact ⟨g, hgsize ▸ hg, (hmem g k).2 hm⟩
  case member =>
    rw [hsize, hgsize]
    exact h.tree.member g c ((hmem g c).1 hm)
  case owner =>
    rw [hgsize] at hg
    rw [(hsame g).1, hsize, hphase, hend]
    exact h.tree.owner g hg
  case grouped =>
    rw [hphase] at hph'
    rw [hgsize, (hsame g).1]
    exact h.tree.grouped k g h2 hph'
  case live =>
    rw [hgsize] at hg
    rw [(hsame g).1, (hsame g).2.1, hsize]
    obtain ⟨hnd, hc⟩ := h.tree.live g hg
    refine ⟨hnd, fun c hc' => ?_⟩
    obtain ⟨hm, ho, hl⟩ := hc c hc'
    exact ⟨(hmem g c).2 hm, ho, hl⟩
  case livePending =>
    rw [hgsize] at hg
    rw [(hsame g).2.1] at hc
    rw [hend, hq]
    exact h.tree.livePending g hg c hc
  case noted =>
    rw [hgsize] at hg
    rw [hsize] at hc
    rw [(hsame g).2.1] at hnl
    rw [hend, (hsame g).2.2.1, (hsame g).2.2.2.1]
    exact h.tree.noted g hg c hc ((hmem g c).1 hm) hnl
  case childDone =>
    rw [hq] at hx
    rw [hgsize, hsize, hmem, hend]
    exact h.tree.childDone g c hx
  case groupFut =>
    rw [hgsize] at hg'
    rw [(hsame g').1]
    rw [hgroup] at hgf
    split at hgf
    · -- the group's new outcome, which its owner alone waits on
      next hg'g =>
      subst hg'g
      obtain rfl : r.futs.size = f := Option.some.inj hgf
      rw [hfut, if_pos rfl, hown]
    · -- an old pending outcome has its owner as waiter, so it is an old one
      have hw := h.tree.groupFut g' hg' f hgf (hpend f hp)
      rw [hold f (by rw [hw]; simp)]
      exact hw
  case waitsOn =>
    by_cases hkj : k = j
    · subst hkj
      rw [htaskj] at hw
      obtain rfl := Option.some.inj hw
      rw [hfut, if_pos rfl]
    · rw [htask k hkj] at hw
      have hws := h.tree.waitsOn k f h2 hw (hpend f hp)
      rw [hold f (by rw [hws]; simp)]
      exact hws
  case errors =>
    rw [hgsize] at hg
    rw [(hsame g).2.2.1]
    exact h.tree.errors g hg
  case failed =>
    rw [hend] at he
    exact h.tree.failed k f h2 he
  case abortReason =>
    rw [hgsize] at hg
    rw [(hsame g).2.2.2.1] at ha
    rw [(hsame g).2.2.1, (hsame g).2.2.2.2]
    exact h.tree.abortReason g hg ha
  case outside =>
    rw [hgsize] at hg
    rw [(hsame g).2.2.2.2] at ho
    rw [(hsame g).1]
    obtain ⟨g', hg', hm, ha⟩ := h.tree.outside g hg ho
    exact ⟨g', hgsize ▸ hg', (hmem _ _).2 hm, by rw [(hsame g').2.2.2.1]; exact ha⟩
  case cancelled =>
    rw [hgsize] at hg
    rw [hend] at he
    rw [(hsame g).2.2.2.1]
    exact h.tree.cancelled g hg c ((hmem g c).1 hm) he
  case cancelSource =>
    rw [(hcalm k).2, hq] at hc
    rcases h.tree.cancelSource k h2 hc with ⟨g, hg, hm, ha⟩ | ⟨g, hg, ho, ha⟩
    · exact .inl ⟨g, hgsize ▸ hg, (hmem g k).2 hm, by rw [(hsame g).2.2.2.1]; exact ha⟩
    · exact .inr ⟨g, hgsize ▸ hg, by rw [(hsame g).1]; exact ho, by rw [(hsame g).2.2.2.1]; exact ha⟩
  case progress =>
    by_cases hkj : k = j
    · -- the task waits on the group's new outcome
      subst hkj
      intro _
      refine .inr ⟨g, r.futs.size, by rw [hphase]; exact hph, by rw [hgroup, if_pos rfl],
        by rw [htaskj], by rw [hfut, if_pos rfl], by rw [hfut, if_pos rfl], ?_⟩
      rw [(hsame g).2.1]
      exact hlive
    · -- another task checks a group it owns, which is not this one
      refine (h.progress k hkj h2 (hsize ▸ hk)).frame (.of_eq (htask k hkj)) (by rw [htask k hkj])
        (fun g' hph' => ?_) (fun f _ hw => hold f (by rw [hw]; simp))
        fun _ hs => by rw [StepQueued, hq]; exact hs
      have hg'g : g' ≠ g := fun hgg => by
        subst hgg
        exact hkj ((h.tree.grouped k g' h2 hph').2.symm.trans hown)
      rw [hgroup, if_neg hg'g]
      exact ⟨rfl, rfl⟩

/-- The run `r'` is `r` after task `j` started a group of new members, one per role of
`roles`, and took up checking it: the members follow the tasks of `r`, the group follows
its groups, and the members' first steps are queued. -/
structure NewGroup (r r' : Run) (j : Nat) (roles : List Role) : Prop where
  size : r'.tasks.size = r.tasks.size + roles.length
  gsize : r'.groups.size = r.groups.size + 1
  old : ∀ k, k < r.tasks.size → k ≠ j → r'.task k = r.task k
  self : r'.task j = { r.task j with phase := .grouped r.groups.size }
  new : ∀ i (hi : i < roles.length),
    r'.task (r.tasks.size + i) = { role := roles[i], callbacks := [.childDone r.groups.size] }
  group : ∀ g, r'.group g =
    if g < r.groups.size then r.group g
    else if g = r.groups.size then { owner := j, live := List.range' r.tasks.size roles.length }
    else default
  futs : r'.futs = r.futs
  queue : r'.queue = r.queue ++ (List.range' r.tasks.size roles.length).map fun c => .step c false
  stores : r'.stores = r.stores
  world : r'.world = r.world

theorem newGroup_startGroup (hj : j < r.tasks.size) (roles : List Role) :
    NewGroup r ((r.startGroup j roles).1.setTask j
      fun t => { t with phase := .grouped r.groups.size }) j roles where
  size := by simp
  gsize := by simp
  old k hk hkj := by rw [task_setTask_ne _ _ (Ne.symm hkj), task_startGroup_of_lt _ _ _ hk]
  self := by rw [task_setTask_self _ _ (by simp; omega), task_startGroup_of_lt _ _ _ hj]
  new i hi := by
    rw [task_setTask_ne _ _ (by omega), task_startGroup_of_le _ _ _ (by omega)]
    simp [List.getElem?_eq_getElem hi]
  group g := by
    rw [group_setTask]
    exact group_startGroup r j roles
  futs := by simp
  queue := by simp
  stores := by simp
  world := by simp

namespace NewGroup

variable {r' : Run} {roles : List Role}

/-- A new task plays a role of the group and notes its end to it. -/
theorem task_new (hng : NewGroup r r' j roles) {c : Nat} (hc : r.tasks.size ≤ c)
    (hc' : c < r.tasks.size + roles.length) :
    ∃ role ∈ roles, r'.task c = { role, callbacks := [.childDone r.groups.size] } := by
  have hi : c - r.tasks.size < roles.length := by omega
  refine ⟨roles[c - r.tasks.size], List.getElem_mem hi, ?_⟩
  have ht := hng.new _ hi
  rwa [Nat.add_sub_cancel' hc] at ht

/-- A task past the old ones is a new member or past the run's tasks. -/
theorem task_of_le (hng : NewGroup r r' j roles) {c : Nat} (hc : r.tasks.size ≤ c) :
    (∃ role ∈ roles, r'.task c = { role, callbacks := [.childDone r.groups.size] }) ∨
      r'.task c = default := by
  by_cases hc' : c < r.tasks.size + roles.length
  · exact .inl (hng.task_new hc hc')
  · exact .inr (task_of_size_le r' (by rw [hng.size]; omega))

/-- A task past the old ones has not started: it is at its start, has not ended, is not
marked for a cancel and waits on nothing. -/
theorem standing_new (hng : NewGroup r r' j roles) {c : Nat} (hc : r.tasks.size ≤ c) :
    (r'.task c).phase = .start ∧ (r'.task c).ending = none ∧ (r'.task c).mustCancel = false ∧
      (r'.task c).waitsOn = none := by
  rcases hng.task_of_le hc with ⟨role, -, ht⟩ | ht <;> rw [ht] <;> exact ⟨rfl, rfl, rfl, rfl⟩

/-- The old tasks keep all but the starting task's phase. -/
theorem old_fields (hng : NewGroup r r' j roles) {k : Nat} (hk : k < r.tasks.size) :
    (r'.task k).role = (r.task k).role ∧ (r'.task k).ending = (r.task k).ending ∧
      (r'.task k).callbacks = (r.task k).callbacks ∧
      (r'.task k).mustCancel = (r.task k).mustCancel ∧
      (r'.task k).waitsOn = (r.task k).waitsOn := by
  by_cases hkj : k = j
  · subst hkj
    rw [hng.self]
    exact ⟨rfl, rfl, rfl, rfl, rfl⟩
  · rw [hng.old k hk hkj]
    exact ⟨rfl, rfl, rfl, rfl, rfl⟩

/-- A task of the new run that has ended is an old task, ended the same way. -/
theorem ended_old (hng : NewGroup r r' j roles) {k : Nat} {e : Ending}
    (he : (r'.task k).ending = some e) : k < r.tasks.size ∧ (r.task k).ending = some e := by
  by_cases hk : k < r.tasks.size
  · exact ⟨hk, (hng.old_fields hk).2.1 ▸ he⟩
  · rw [(hng.standing_new (by omega)).2.1] at he
    cases he

/-- A task of the new run marked for a cancel is an old task, marked already. -/
theorem mustCancel_old (hng : NewGroup r r' j roles) {k : Nat}
    (hm : (r'.task k).mustCancel = true) : k < r.tasks.size ∧ (r.task k).mustCancel = true := by
  by_cases hk : k < r.tasks.size
  · exact ⟨hk, (hng.old_fields hk).2.2.2.1 ▸ hm⟩
  · rw [(hng.standing_new (by omega)).2.2.1] at hm
    cases hm

/-- A task of the new run waiting on an outcome is an old task, waiting on it already. -/
theorem waitsOn_old (hng : NewGroup r r' j roles) {k f : Nat}
    (hw : (r'.task k).waitsOn = some f) : k < r.tasks.size ∧ (r.task k).waitsOn = some f := by
  by_cases hk : k < r.tasks.size
  · exact ⟨hk, (hng.old_fields hk).2.2.2.2 ▸ hw⟩
  · rw [(hng.standing_new (by omega)).2.2.2] at hw
    cases hw

/-- An old task is a member of the groups it was a member of. -/
theorem member_old (hng : NewGroup r r' j roles) {g c : Nat} (hc : c < r.tasks.size) :
    r'.Member g c ↔ r.Member g c :=
  member_iff (hng.old_fields hc).2.2.1

/-- A member past the old tasks is a new member, of the new group. -/
theorem member_new (hng : NewGroup r r' j roles) {g c : Nat} (hc : r.tasks.size ≤ c)
    (hm : r'.Member g c) : g = r.groups.size ∧ c < r.tasks.size + roles.length := by
  by_cases hc' : c < r.tasks.size + roles.length
  · obtain ⟨role, -, ht⟩ := hng.task_new hc hc'
    unfold Member at hm
    rw [ht] at hm
    exact ⟨(Callback.childDone.inj (List.cons.inj hm).1).symm, hc'⟩
  · unfold Member at hm
    rw [task_of_size_le r' (by rw [hng.size]; omega)] at hm
    cases hm

/-- Every new task is a member of the new group. -/
theorem member_of_new (hng : NewGroup r r' j roles) {c : Nat} (hc : r.tasks.size ≤ c)
    (hc' : c < r.tasks.size + roles.length) : r'.Member r.groups.size c := by
  obtain ⟨role, -, ht⟩ := hng.task_new hc hc'
  unfold Member
  rw [ht]

/-- Every role of the new group is played by one of its members. -/
theorem member_of_mem (hng : NewGroup r r' j roles) {role : Role} (hrole : role ∈ roles) :
    ∃ c, r'.Member r.groups.size c ∧ (r'.task c).role = role := by
  obtain ⟨i, hi, rfl⟩ := List.getElem_of_mem hrole
  exact ⟨r.tasks.size + i, by rw [Member, hng.new i hi], by rw [hng.new i hi]⟩

theorem group_old (hng : NewGroup r r' j roles) {g : Nat} (hg : g < r.groups.size) :
    r'.group g = r.group g := by
  rw [hng.group, if_pos hg]

theorem group_new (hng : NewGroup r r' j roles) :
    r'.group r.groups.size = { owner := j, live := List.range' r.tasks.size roles.length } := by
  rw [hng.group, if_neg (Nat.lt_irrefl _), if_pos rfl]

/-- A new group records no failure and no abort, like the default group it replaces. -/
theorem group_flags (hng : NewGroup r r' j roles) (g : Nat) :
    (r'.group g).errors = (r.group g).errors ∧ (r'.group g).aborting = (r.group g).aborting ∧
      (r'.group g).outsideCancel = (r.group g).outsideCancel := by
  rw [hng.group]
  split
  · exact ⟨rfl, rfl, rfl⟩
  · rw [group_of_size_le r (by omega)]
    split <;> exact ⟨rfl, rfl, rfl⟩

/-- An event of the new queue is an old one or the first step of a new member. -/
theorem mem_queue (hng : NewGroup r r' j roles) {x : Event} (hx : x ∈ r'.queue) :
    x ∈ r.queue ∨ ∃ c, x = .step c false ∧ r.tasks.size ≤ c := by
  rw [hng.queue] at hx
  rcases List.mem_append.1 hx with hx | hx
  · exact .inl hx
  · obtain ⟨c, hc, rfl⟩ := List.mem_map.1 hx
    exact .inr ⟨c, rfl, (List.mem_range'_1.1 hc).1⟩

end NewGroup

/-- **A task starts a group of new members** and takes up checking it.  The task was at
its start or holding its answer, so it owned no group; each new member has the shape of
a task under the loader. -/
theorem Moving.startGroup (h : r.Moving S j)
    (hph : (r.task j).phase = .start ∨ ∃ o, (r.task j).phase = .gotNames o)
    {roles : List Role} (hng : NewGroup r r' j roles)
    (hroles : ∀ role ∈ roles, ∀ c, 3 ≤ c → S.Shape c { role, callbacks := [.childDone r.groups.size] })
    (hshape : S.Shape j { r.task j with phase := .grouped r.groups.size }) : r'.Moving S j := by
  have hlt := h.lt
  have hN : 3 ≤ r.tasks.size := by have := h.lower; omega
  -- the moving task owns no group yet
  have hown : ∀ g < r.groups.size, (r.group g).owner ≠ j := fun g hg ho => by
    rcases (h.tree.owner g hg).2.2 with hph' | hended
    · rw [ho] at hph'
      rcases hph with hph | ⟨o, hph⟩ <;> rw [hph] at hph' <;> cases hph'
    · rw [ho, h.unended] at hended
      cases hended
  have hsize := hng.size
  have hgsize := hng.gsize
  have hfut : ∀ f, r'.fut f = r.fut f := fun f => by simp only [fut, hng.futs]
  -- a group of the run is an old one or the new one
  have hgcases : ∀ g < r'.groups.size, g < r.groups.size ∨ g = r.groups.size := fun g hg => by
    rw [hgsize] at hg
    omega
  refine ⟨
    { shape := fun k h2 hk => ?shape
      fresh := fun he hph' => ?fresh
      sub := fun k h3 hk => ?sub
      member := fun g c hm => ?member
      owner := fun g hg => ?owner
      grouped := fun k g h2 hph' => ?grouped
      live := fun g hg => ?live
      livePending := fun g hg c hc => ?livePending
      noted := fun g hg c hc hm hnl => ?noted
      childDone := fun g c hx => ?childDone
      groupFut := fun g hg f hgf hp => ?groupFut
      waitsOn := fun k f h2 hw hp => ?waitsOn
      errors := fun g hg => ?errors
      failed := fun k f h2 he => ?failed
      abortReason := fun g hg ha => ?abortReason
      outside := fun g hg ho => ?outside
      cancelled := fun g hg c hm he => ?cancelled
      cancelSource := fun k h2 hc => ?cancelSource }, fun k hkj h2 hk => ?progress, h.lower, by omega,
      by rw [hng.self]; exact h.unended⟩
  case shape =>
    by_cases hk' : k < r.tasks.size
    · by_cases hkj : k = j
      · subst hkj
        rw [hng.self]
        exact hshape
      · rw [hng.old k hk' hkj]
        exact h.tree.shape k h2 hk'
    · obtain ⟨role, hrole, ht⟩ := hng.task_new (c := k) (by omega) (by omega)
      rw [ht]
      exact hroles role hrole k (by omega)
  case fresh =>
    -- the loader moves on from its start here, or is under way already
    exfalso
    by_cases hj2 : j = 2
    · subst hj2
      rw [hng.self] at hph'
      rcases hph' with hph' | ⟨o, hph'⟩ <;> cases hph'
    · rw [hng.old 2 (by omega) (Ne.symm hj2)] at he hph'
      have := (h.tree.fresh he hph').1
      have := h.lower
      omega
  case sub =>
    by_cases hk' : k < r.tasks.size
    · obtain ⟨g, hg, hm⟩ := h.tree.sub k h3 hk'
      exact ⟨g, by omega, (hng.member_old hk').2 hm⟩
    · exact ⟨r.groups.size, by omega, hng.member_of_new (by omega) (by omega)⟩
  case member =>
    by_cases hc : c < r.tasks.size
    · obtain ⟨h3, hlt', hg⟩ := h.tree.member g c ((hng.member_old hc).1 hm)
      exact ⟨h3, by omega, by omega⟩
    · obtain ⟨rfl, hc'⟩ := hng.member_new (by omega) hm
      exact ⟨by omega, by omega, by omega⟩
  case owner =>
    rcases hgcases g hg with hg' | rfl
    · rw [hng.group_old hg']
      obtain ⟨h2, hlt', hph'⟩ := h.tree.owner g hg'
      rw [hng.old _ hlt' (hown g hg')]
      exact ⟨h2, by omega, hph'⟩
    · rw [hng.group_new]
      dsimp only
      rw [hng.self]
      exact ⟨h.lower, by omega, .inl rfl⟩
  case grouped =>
    by_cases hk' : k < r.tasks.size
    · by_cases hkj : k = j
      · subst hkj
        rw [hng.self] at hph'
        obtain rfl := Phase.grouped.inj hph'
        rw [hng.group_new]
        exact ⟨by omega, rfl⟩
      · rw [hng.old k hk' hkj] at hph'
        obtain ⟨hg, ho⟩ := h.tree.grouped k g h2 hph'
        rw [hng.group_old hg]
        exact ⟨by omega, ho⟩
    · rw [(hng.standing_new (by omega)).1] at hph'
      cases hph'
  case live =>
    rcases hgcases g hg with hg' | rfl
    · rw [hng.group_old hg']
      obtain ⟨hnd, hc⟩ := h.tree.live g hg'
      refine ⟨hnd, fun c hc' => ?_⟩
      obtain ⟨hm, ho, hl⟩ := hc c hc'
      exact ⟨(hng.member_old hl).2 hm, ho, by omega⟩
    · rw [hng.group_new]
      refine ⟨List.nodup_range', fun c hc => ?_⟩
      obtain ⟨hc1, hc2⟩ := List.mem_range'_1.1 hc
      exact ⟨hng.member_of_new hc1 hc2, by simp only; omega, by omega⟩
  case livePending =>
    rcases hgcases g hg with hg' | rfl
    · rw [hng.group_old hg'] at hc
      have hl := ((h.tree.live g hg').2 c hc).2.2
      rw [(hng.old_fields hl).2.1, hng.queue]
      exact (h.tree.livePending g hg' c hc).imp_right (List.mem_append_left _)
    · rw [hng.group_new] at hc
      exact .inl (hng.standing_new (List.mem_range'_1.1 hc).1).2.1
  case noted =>
    rcases hgcases g hg with hg' | rfl
    · rw [hng.group_old hg'] at hnl ⊢
      by_cases hc' : c < r.tasks.size
      · rw [(hng.old_fields hc').2.1]
        exact h.tree.noted g hg' c hc' ((hng.member_old hc').1 hm) hnl
      · have := (hng.member_new (by omega) hm).1
        omega
    · -- a member of the new group is new, and live
      exfalso
      by_cases hc' : c < r.tasks.size
      · have := (h.tree.member _ c ((hng.member_old hc').1 hm)).2.2
        omega
      · rw [hng.group_new] at hnl
        exact hnl (List.mem_range'_1.2 ⟨by omega, (hng.member_new (by omega) hm).2⟩)
  case childDone =>
    rcases hng.mem_queue hx with hx' | ⟨c', hx', -⟩
    · obtain ⟨hg, hc, hm, he⟩ := h.tree.childDone g c hx'
      rw [hng.member_old hc, (hng.old_fields hc).2.1]
      exact ⟨by omega, by omega, hm, he⟩
    · cases hx'
  case groupFut =>
    rcases hgcases g hg with hg' | rfl
    · rw [hng.group_old hg'] at hgf ⊢
      rw [hfut] at hp ⊢
      exact h.tree.groupFut g hg' f hgf hp
    · rw [hng.group_new] at hgf
      cases hgf
  case waitsOn =>
    rw [hfut] at hp ⊢
    exact h.tree.waitsOn k f h2 (hng.waitsOn_old hw).2 hp
  case errors =>
    rcases hgcases g hg with hg' | rfl
    · rw [hng.group_old hg']
      exact h.tree.errors g hg'
    · rw [hng.group_new]
      simp
  case failed =>
    exact h.tree.failed k f h2 (hng.ended_old he).2
  case abortReason =>
    rcases hgcases g hg with hg' | rfl
    · rw [hng.group_old hg'] at ha ⊢
      exact h.tree.abortReason g hg' ha
    · rw [hng.group_new] at ha
      cases ha
  case outside =>
    rcases hgcases g hg with hg' | rfl
    · rw [hng.group_old hg'] at ho ⊢
      obtain ⟨g', hg'', hm, ha⟩ := h.tree.outside g hg' ho
      have hol := (h.tree.owner g hg').2.1
      exact ⟨g', by omega, (hng.member_old hol).2 hm, by rw [hng.group_old hg'']; exact ha⟩
    · rw [hng.group_new] at ho
      cases ho
  case cancelled =>
    -- a task that has ended is old, so a member of an old group
    obtain ⟨hc', he⟩ := hng.ended_old he
    have hm' := (hng.member_old hc').1 hm
    have hg' := (h.tree.member g c hm').2.2
    rw [hng.group_old hg']
    exact h.tree.cancelled g hg' c hm' he
  case cancelSource =>
    -- only old cancels remain, and they name old groups
    have hold : .step k true ∈ r'.queue → .step k true ∈ r.queue := fun hx =>
      (hng.mem_queue hx).resolve_right fun hex => by
        obtain ⟨c, hx', -⟩ := hex
        cases hx'
    have hc' : (r.task k).mustCancel = true ∨ .step k true ∈ r.queue :=
      hc.imp (fun hm => (hng.mustCancel_old hm).2) hold
    rcases h.tree.cancelSource k h2 hc' with ⟨g, hg, hm, ha⟩ | ⟨g, hg, ho, ha⟩
    · have hk' := (h.tree.member g k hm).2.1
      exact .inl ⟨g, by omega, (hng.member_old hk').2 hm, by rw [hng.group_old hg]; exact ha⟩
    · exact .inr ⟨g, by omega, by rw [hng.group_old hg]; exact ho, by rw [hng.group_old hg]; exact ha⟩
  case progress =>
    by_cases hk' : k < r.tasks.size
    · refine (h.progress k hkj h2 hk').frame (.of_eq (hng.old k hk' hkj)) (by rw [hng.old k hk' hkj])
        (fun g hph' => ?_) (fun f _ _ => hfut f)
        fun _ hs => hs.imp fun th hx => by rw [hng.queue]; exact List.mem_append_left _ hx
      rw [hng.group_old (h.tree.grouped k g h2 hph').1]
      exact ⟨rfl, rfl⟩
    · -- a new member's first step is queued
      intro _
      refine .inl ⟨false, ?_⟩
      rw [hng.queue]
      exact List.mem_append_right _ (List.mem_map.2 ⟨k, List.mem_range'_1.2 ⟨by omega, by omega⟩, rfl⟩)

end Run

end SqlAssist.Schema
