import SqlAssist.Proofs.Schema.LoadStepping

/-!
# A group notes the end of a member

When a member of a task group ends, its callback queues the group's note of that end.
Handling the note drops the member from the group's live members and, once none is
left, resolves the outcome its owner waits on.  A member that failed has its failure
recorded, and the group's first failure aborts the group: its live members are
cancelled, and so is its owner.

Each of these updates keeps the invariant of a lone load (`Run.LoadInv`) on its own,
except dropping the member and resolving the owner's wait, which keep it together.  A
failure is recorded before the member is dropped: the two touch different fields of the
group, so the run is the same.

## Main statements

* `LoadInv.record`: a change of what one group records keeps the invariant.
* `LoadInv.cancels`: cancels of members and owners of aborting groups keep it.
* `LoadTree.dropLive`, `LoadTree.resolve`: dropping a noted member and resolving an
  outcome keep the tree.
* `LoadInv.noteLive`: the first half of a note keeps the invariant.
* `LoadInv.childDone`: so does the whole note.
-/

namespace SqlAssist.Schema

namespace Run

variable {S : LoadSetting} {r r' : Run} {g c : Nat}

/-! ## What one group records -/

/-- **A change of what one group records keeps the invariant** when it keeps the group's
owner, live members and outcome, adds only failures that name a first failure, keeps an
abort and aborts only for a reason, and marks no cancel from outside.  In a clean run it
must change none of the failures, the abort and the outside cancel. -/
theorem LoadInv.record (h : r.LoadInv S) {F : Group → Group}
    (hkeep : (F (r.group g)).owner = (r.group g).owner ∧ (F (r.group g)).live = (r.group g).live ∧
      (F (r.group g)).fut = (r.group g).fut)
    (herrors : ∃ es, (F (r.group g)).errors = (r.group g).errors ++ es ∧ ∀ f ∈ es, f.first ≠ none)
    (haborting : (r.group g).aborting → (F (r.group g)).aborting)
    (hreason : (F (r.group g)).aborting →
      (F (r.group g)).errors ≠ [] ∨ (F (r.group g)).outsideCancel)
    (houtside : (F (r.group g)).outsideCancel → (r.group g).outsideCancel)
    (hclean : TextNames S.source → (fetchedSnapshot S.source).isSome →
      (F (r.group g)).errors = (r.group g).errors ∧
        (F (r.group g)).aborting = (r.group g).aborting ∧
        (F (r.group g)).outsideCancel = (r.group g).outsideCancel) :
    (r.setGroup g F).LoadInv S := by
  by_cases hg : g < r.groups.size
  swap
  · rw [setGroup_of_size_le r _ (Nat.le_of_not_lt hg)]
    exact h
  have hv := group_setGroup_of_lt (r := r) (F := F) hg
  have hk : ∀ g₀, ((r.setGroup g F).group g₀).owner = (r.group g₀).owner ∧
      ((r.setGroup g F).group g₀).live = (r.group g₀).live ∧
      ((r.setGroup g F).group g₀).fut = (r.group g₀).fut := fun g₀ => by
    rw [hv]
    split
    · rename_i hgg
      subst hgg
      exact hkeep
    · exact ⟨rfl, rfl, rfl⟩
  have htree : (r.setGroup g F).LoadTree S :=
    h.tree.regroupOne ⟨hkeep.1, hkeep.2.1⟩ (fun f hf => hkeep.2.2 ▸ hf) herrors haborting
      (fun _ => hreason) fun _ ho => .inl (houtside ho)
  refine ⟨h.top.frame le_rfl rfl rfl rfl rfl rfl le_rfl rfl (fun x hx _ => hx) fun x hx _ => .inl hx,
    htree, fun k h2 hk' => ?_, fun hs => ?_, h.cache.frame rfl rfl h.cache.sources rfl,
    fun hs hfs => ?_⟩
  · exact (h.progress k h2 (by simpa using hk')).frame (.refl _) rfl
      (fun g₀ _ => ⟨(hk g₀).2.2, (hk g₀).2.1⟩) (fun _ _ _ => rfl) fun _ hs => hs
  · exact (h.data hs).frame rfl (fun _ => rfl) (fun _ => rfl) (fun _ _ _ => id)
      (fun _ _ he => .inl he) (by simp) fun g₀ => (hk g₀).1
  · refine (h.clean hs hfs).frame (fun _ _ _ he => .inl he) (fun _ _ => id) (fun g₀ => ?_)
      fun _ _ hx => hx
    rw [hv]
    split
    · rename_i hgg
      subst hgg
      exact hclean hs hfs
    · exact ⟨rfl, rfl, rfl⟩

/-- **Cancels keep the invariant** when every cancelled task is a member or the owner of
an aborting group. -/
theorem LoadInv.cancels {L : List Nat} (h : r.LoadInv S) (hc : Cancels r r' L)
    (hL : ∀ c ∈ L, (∃ g < r.groups.size, r.Member g c ∧ (r.group g).aborting) ∨
      (∃ g < r.groups.size, (r.group g).owner = c ∧ (r.group g).aborting)) : r'.LoadInv S := by
  have hend : (r'.task 2).ending = (r.task 2).ending := by
    rcases hc.task 2 with ht | ⟨-, ht⟩ <;> rw [ht]
  exact ⟨h.top.cancels h.tree hc fun c hcL => h.tree.two_le_of_cancel (hL c hcL),
    h.tree.cancels hc hL, fun k h2 hk => (h.progress k h2 (hc.size ▸ hk)).cancels hc,
    fun hs => (h.data hs).cancels hc,
    h.cache.frame (by rw [hc.world]) (by rw [hc.world]) (by rw [hc.world]; exact h.cache.sources)
      hend,
    fun hs hfs => (h.clean hs hfs).cancels hc hL⟩

/-! ## Dropping a member and resolving the owner's wait -/

/-- The first half of a note, by whether it resolves the owner's wait: it does exactly
when the group has an outcome pending and no member is left live. -/
theorem noteLive_cases_of_lt (hg : g < r.groups.size) :
    (r.noteLive g c = r.setGroup g (fun x => { x with live := x.live.erase c }) ∧
      ∀ f, (r.group g).fut = some f → (r.fut f).state = .pending →
        (r.group g).live.erase c ≠ []) ∨
    ∃ f, (r.group g).fut = some f ∧ (r.group g).live.erase c = [] ∧
      (r.fut f).state = .pending ∧
      r.noteLive g c =
        (r.setGroup g fun x => { x with live := x.live.erase c }).settle f (.resolved .ok) := by
  unfold noteLive
  simp only [group_setGroup_self r _ hg]
  cases hf : (r.group g).fut with
  | none => exact .inl ⟨rfl, fun f hf' => by cases hf'⟩
  | some f =>
    by_cases hl : (r.group g).live.erase c = []
    · by_cases hp : (r.fut f).state = .pending
      · exact .inr ⟨f, rfl, hl, hp, by simp [hl]⟩
      · refine .inl ⟨?_, fun f' hf' hp' => ?_⟩
        · simp only [hl, List.isEmpty_nil, if_true]
          exact settle_of_not_pending (r.setGroup g fun x => { x with live := x.live.erase c })
            (Bool.eq_false_iff.2 fun hp' => hp ((isPending_iff _).1 hp')) _
        · obtain rfl := Option.some.inj hf'
          exact absurd hp' hp
    · exact .inl ⟨by simp [hl], fun _ _ _ => hl⟩

/-- Dropping a member of a group changes only the group's live members. -/
theorem group_setGroup_erase (r : Run) (g c g₀ : Nat) :
    let r' := r.setGroup g fun x => { x with live := x.live.erase c }
    (r'.group g₀).owner = (r.group g₀).owner ∧ (r'.group g₀).fut = (r.group g₀).fut ∧
      (r'.group g₀).errors = (r.group g₀).errors ∧ (r'.group g₀).aborting = (r.group g₀).aborting ∧
      (r'.group g₀).outsideCancel = (r.group g₀).outsideCancel ∧
      (r'.group g₀).ownerCancelled = (r.group g₀).ownerCancelled := by
  intro r'
  simp only [r', group_setGroup]
  split <;> exact ⟨rfl, rfl, rfl, rfl, rfl, rfl⟩

/-- **Dropping a noted member keeps the tree.**  Once the note of member `c` of group
`g` leaves the queue, `c` leaves the group's live members; the tree holds again if the
group may see `c` as noted: it ended well, or the group has failed or is aborting. -/
theorem LoadTree.dropLive (h : r.LoadTree S) {rest : List Event}
    (hq : r.queue = .childDone g c :: rest)
    (hnoted : (r.task c).ending = some .ok ∨ (r.group g).errors ≠ [] ∨ (r.group g).aborting) :
    (({ r with queue := rest } : Run).setGroup g fun x => { x with live := x.live.erase c }).LoadTree
      S := by
  obtain ⟨hg, -, -, hend⟩ := h.childDone g c (by rw [hq]; exact List.mem_cons_self)
  set r' : Run := ({ r with queue := rest } : Run).setGroup g
    fun x => { x with live := x.live.erase c } with hr'
  have hsize : r'.groups.size = r.groups.size := by simp [r']
  -- the note leaves the queue and nothing else does
  have hpop : ∀ x ∈ r'.queue, x ∈ r.queue := fun x hx => by
    rw [hq]
    exact .tail _ hx
  -- only the live members of `g` change
  have hv := group_setGroup_of_lt (r := ({ r with queue := rest } : Run))
    (F := fun x => { x with live := x.live.erase c }) hg
  have hf := group_setGroup_erase ({ r with queue := rest } : Run) g c
  have hlive : ∀ g₀ c', c' ∈ (r'.group g₀).live ↔ c' ∈ (r.group g₀).live ∧ ¬(g₀ = g ∧ c' = c) :=
    fun g₀ c' => by
      rw [hv]
      by_cases hgg : g₀ = g
      · subst hgg
        rw [if_pos rfl]
        show c' ∈ (r.group g₀).live.erase c ↔ _
        rw [(h.live g₀ hg).1.mem_erase_iff]
        simp only [true_and]
        exact ⟨fun ⟨hne, hc'⟩ => ⟨hc', hne⟩, fun ⟨hc', hne⟩ => ⟨hne, hc'⟩⟩
      · simp [hgg]
  have hnodup : ∀ g₀ < r.groups.size, (r'.group g₀).live.Nodup := fun g₀ hg₀ => by
    rw [hv]
    split
    · rename_i hgg
      subst hgg
      exact (h.live g₀ hg).1.erase c
    · exact (h.live g₀ hg₀).1
  refine
    { shape := fun j h2 hj => h.shape j h2 hj
      fresh := fun he hph => by
        rw [hsize]
        exact h.fresh he hph
      sub := fun j h3 hj => by
        obtain ⟨g₀, hg₀, hm⟩ := h.sub j h3 hj
        exact ⟨g₀, by rw [hsize]; exact hg₀, hm⟩
      member := fun g₀ c' hm => by
        rw [hsize]
        exact h.member g₀ c' hm
      owner := fun g₀ hg₀ => ?_
      grouped := fun j g₀ h2 hph => ?_
      live := fun g₀ hg₀ => ?_
      livePending := fun g₀ hg₀ c' hc' => ?_
      noted := fun g₀ hg₀ c' hc' hm hnl => ?_
      childDone := fun g₀ c' hx => by
        rw [hsize]
        exact h.childDone g₀ c' (hpop _ hx)
      groupFut := fun g₀ hg₀ f hgf hp => ?_
      waitsOn := fun j f h2 hw hp => h.waitsOn j f h2 hw hp
      errors := fun g₀ hg₀ f hfe => ?_
      failed := fun j f h2 he => h.failed j f h2 he
      abortReason := fun g₀ hg₀ ha => ?_
      outside := fun g₀ hg₀ ho => ?_
      cancelled := fun g₀ hg₀ c' hm he => ?_
      cancelSource := fun j h2 hcan => ?_ }
  · rw [hsize] at hg₀
    rw [(hf g₀).1]
    exact h.owner g₀ hg₀
  · rw [hsize, (hf g₀).1]
    exact h.grouped j g₀ h2 hph
  · rw [hsize] at hg₀
    refine ⟨hnodup g₀ hg₀, fun c' hc' => ?_⟩
    obtain ⟨hm, ho, hlt⟩ := (h.live g₀ hg₀).2 c' ((hlive g₀ c').1 hc').1
    exact ⟨hm, by rw [(hf g₀).1]; exact ho, hlt⟩
  · -- a member still live keeps its pending note, which is not the one handled
    rw [hsize] at hg₀
    obtain ⟨hc'', hne⟩ := (hlive g₀ c').1 hc'
    refine (h.livePending g₀ hg₀ c' hc'').imp_right fun hx => ?_
    rw [hq] at hx
    rcases List.mem_cons.1 hx with hx | hx
    · obtain ⟨rfl, rfl⟩ := Event.childDone.inj hx
      exact absurd ⟨rfl, rfl⟩ hne
    · exact hx
  · rw [hsize] at hg₀
    rw [(hf g₀).2.2.1, (hf g₀).2.2.2.1]
    by_cases hcase : g₀ = g ∧ c' = c
    · obtain ⟨rfl, rfl⟩ := hcase
      exact ⟨hend, hnoted⟩
    · exact h.noted g₀ hg₀ c' hc' hm fun hc'' => hnl ((hlive g₀ c').2 ⟨hc'', hcase⟩)
  · rw [hsize] at hg₀
    rw [(hf g₀).2.1] at hgf
    rw [(hf g₀).1]
    exact h.groupFut g₀ hg₀ f hgf hp
  · rw [hsize] at hg₀
    rw [(hf g₀).2.2.1] at hfe
    exact h.errors g₀ hg₀ f hfe
  · rw [hsize] at hg₀
    rw [(hf g₀).2.2.2.1] at ha
    rw [(hf g₀).2.2.1, (hf g₀).2.2.2.2.1]
    exact h.abortReason g₀ hg₀ ha
  · rw [hsize] at hg₀
    rw [(hf g₀).2.2.2.2.1] at ho
    obtain ⟨g', hg', hm, ha⟩ := h.outside g₀ hg₀ ho
    exact ⟨g', by rw [hsize]; exact hg', by rw [(hf g₀).1]; exact hm, by rw [(hf g').2.2.2.1]; exact ha⟩
  · rw [hsize] at hg₀
    rw [(hf g₀).2.2.2.1]
    exact h.cancelled g₀ hg₀ c' hm he
  · obtain ⟨g', hg', hm, ha⟩ | ⟨g', hg', ho, ha⟩ :=
      h.cancelSource j h2 (hcan.imp_right (hpop _))
    · exact .inl ⟨g', by rw [hsize]; exact hg', hm, by rw [(hf g').2.2.2.1]; exact ha⟩
    · exact .inr ⟨g', by rw [hsize]; exact hg', by rw [(hf g').1]; exact ho,
        by rw [(hf g').2.2.2.1]; exact ha⟩

/-- **Resolving an outcome keeps the tree**: no pending outcome is left that a task
waits on in vain, and the waiters it wakes are not woken cancelled. -/
theorem LoadTree.resolve (h : r.LoadTree S) (f : Nat) (e : Ending) :
    (r.settle f (.resolved e)).LoadTree S := by
  by_cases hp : (r.fut f).state = .pending
  · have hkept : ∀ f', ((r.settle f (.resolved e)).fut f').state = .pending →
        (r.settle f (.resolved e)).fut f' = r.fut f' := fun f' => fut_settle_of_pending r (by simp)
    rw [settle_resolved r hp] at hkept ⊢
    refine h.frame rfl (fun k _ => .refl _) (fun _ => rfl) rfl hkept (fun g c => ?_)
      fun k _ hcan => .inl ?_
    · simp
    · rcases hcan with hm | hx
      · exact .inl hm
      · exact .inr (by simpa using hx)
  · rw [settle_of_not_pending r (Bool.eq_false_iff.2 fun hp' => hp ((isPending_iff r).1 hp'))]
    exact h

/-- **The first half of a note keeps the invariant.**  The member leaves the group's live
members; when none is left and the owner waits on the group, the owner's wait is
resolved and its step queued.  The member must be one the group may see as noted. -/
theorem LoadInv.noteLive (h : r.LoadInv S) {rest : List Event}
    (hq : r.queue = .childDone g c :: rest)
    (hnoted : (r.task c).ending = some .ok ∨ (r.group g).errors ≠ [] ∨ (r.group g).aborting) :
    (({ r with queue := rest } : Run).noteLive g c).LoadInv S := by
  obtain ⟨hg, -, -, -⟩ := h.tree.childDone g c (by rw [hq]; exact List.mem_cons_self)
  have hpop : ∀ x ∈ rest, x ∈ r.queue := fun x hx => by
    rw [hq]
    exact .tail _ hx
  -- every event but the note stays queued
  have hkeep : ∀ x ∈ r.queue, x ≠ .childDone g c → x ∈ rest := fun x hx hne => by
    rw [hq] at hx
    exact (List.mem_cons.1 hx).resolve_left hne
  have hstep : ∀ k th, .step k th ∈ r.queue → .step k th ∈ rest := fun k th hx =>
    hkeep _ hx (by simp)
  set r2 : Run := ({ r with queue := rest } : Run).setGroup g
    fun x => { x with live := x.live.erase c } with hr2
  have hf := group_setGroup_erase ({ r with queue := rest } : Run) g c
  have hsize2 : r2.groups.size = r.groups.size := by simp [r2]
  have hlive2 : (r2.group g).live = (r.group g).live.erase c := by simp [r2, hg]
  have hlive2' : ∀ g₀, g₀ ≠ g → (r2.group g₀).live = (r.group g₀).live := fun g₀ hgg => by
    simp [r2, Ne.symm hgg]
  -- the parts beside the tree carry over to the group without the member
  have htop2 : r2.LoadTop S := h.top.frame le_rfl rfl rfl rfl rfl rfl le_rfl rfl
    (fun x hx _ => hpop x hx) fun x hx hab => .inl (hkeep x hx fun he => by
      rw [he] at hab
      simp [Event.above] at hab)
  have hdata2 : TextNames S.source → r2.LoadData S := fun hs =>
    (h.data hs).frame rfl (fun _ => rfl) (fun _ => rfl) (fun _ _ _ => id) (fun _ _ he => .inl he)
      hsize2 fun g₀ => (hf g₀).1
  have hcache2 : r2.LoadCache S := h.cache.frame rfl rfl h.cache.sources rfl
  have hclean2 : TextNames S.source → (fetchedSnapshot S.source).isSome → r2.LoadClean :=
    fun hs hfs => (h.clean hs hfs).frame (fun _ _ _ he => .inl he) (fun _ _ => id)
      (fun g₀ => ⟨(hf g₀).2.2.1, (hf g₀).2.2.2.1, (hf g₀).2.2.2.2.1⟩) fun _ _ hx => hpop _ hx
  have htree2 : r2.LoadTree S := h.tree.dropLive hq hnoted
  rcases noteLive_cases_of_lt (r := ({ r with queue := rest } : Run)) (c := c) hg with
    ⟨heq, hnot⟩ | ⟨f, hgf, hl, hp, heq⟩
  · -- no wait is resolved: an owner that waits on the group still has a live member
    rw [heq]
    refine ⟨htop2, htree2, fun k h2 hk hend => ?_, hdata2, hcache2, hclean2⟩
    rcases h.progress k h2 hk hend with ⟨th, hx⟩ | ⟨g', f', hph, hgf', hw, hp', hws, hlive⟩
    · exact .inl ⟨th, hstep k th hx⟩
    · refine .inr ⟨g', f', hph, by rw [(hf g').2.1]; exact hgf', hw, hp', hws, ?_⟩
      by_cases hgg : g' = g
      · subst hgg
        rw [hlive2]
        exact hnot f' hgf' hp'
      · rw [hlive2' g' hgg]
        exact hlive
  · -- the owner's wait is resolved, and its step queued
    rw [heq]
    have hgf0 : (r.group g).fut = some f := hgf
    have htree3 := htree2.resolve f .ok
    have hp2 : (r2.fut f).state = .pending := hp
    rw [settle_resolved r2 hp2] at htree3 ⊢
    set r3 : Run := { r2 with
      futs := r2.futs.modify f (fun x => { x with state := .resolved .ok })
      queue := r2.queue ++ (r2.fut f).waiters.map fun w => .step w false }
    -- every other outcome is as it was
    have hother : ∀ f', f' ≠ f → r3.fut f' = r.fut f' := fun f' hff => by
      rw [fut_modify r2 (F := fun x => { x with state := .resolved .ok }) rfl,
        if_neg fun h' => hff h'.1.symm]
      rfl
    -- the outcome has one waiter, the owner, which is under the loader
    have hws : (r2.fut f).waiters = [(r.group g).owner] := h.tree.groupFut g hg f hgf hp
    have ho2 := (h.tree.owner g hg).1
    have hf0 : f ≠ 0 := fun hf0 => by
      subst hf0
      have h1 := h.top.fut.2
      change (r2.fut 0).waiters = [1] at h1
      rw [hws, List.cons.injEq] at h1
      omega
    have hnew : ∀ x ∈ (r2.fut f).waiters.map fun w => Event.step w false,
        x = .step (r.group g).owner false := fun x hx => by
      rw [hws] at hx
      simpa using hx
    refine ⟨htop2.frame le_rfl rfl rfl rfl rfl (hother 0 (Ne.symm hf0))
        (by simp [r3]) rfl (fun x hx hab => ?_) (fun x hx _ => .inl (List.mem_append_left _ hx)),
      htree3, fun k h2 hk hend => ?_, fun hs => (hdata2 hs).frame rfl (fun _ => rfl)
        (fun _ => rfl) (fun _ _ _ => id) (fun _ _ he => .inl he) rfl fun _ => rfl,
      hcache2.frame rfl rfl hcache2.sources rfl, fun hs hfs => (hclean2 hs hfs).frame
        (fun _ _ _ he => .inl he) (fun _ _ => id) (fun _ => ⟨rfl, rfl, rfl⟩) fun j _ hx => ?_⟩
    · rcases List.mem_append.1 hx with hx | hx
      · exact hx
      · rw [hnew x hx] at hab
        simp only [Event.above, decide_eq_true_eq] at hab
        omega
    · rcases h.progress k h2 hk hend with ⟨th, hx⟩ | ⟨g', f', hph, hgf', hw, hp', hws', hlive⟩
      · exact .inl ⟨th, List.mem_append_left _ (hstep k th hx)⟩
      · by_cases hff : f' = f
        · -- the resolved outcome wakes its one waiter
          subst hff
          change (r2.fut f').waiters = [k] at hws'
          exact .inl ⟨false, List.mem_append_right _ (by rw [hws']; simp)⟩
        · refine .inr ⟨g', f', hph, ?_, hw, by rw [hother f' hff]; exact hp',
            by rw [hother f' hff]; exact hws', ?_⟩
          · show (r2.group g').fut = some f'
            rw [(hf g').2.1]
            exact hgf'
          have hgg : g' ≠ g := fun hgg => by
            subst hgg
            rw [hgf0] at hgf'
            exact hff (Option.some.inj hgf').symm
          rw [show r3.group g' = r2.group g' from rfl, hlive2' g' hgg]
          exact hlive
    · rcases List.mem_append.1 hx with hx | hx
      · exact hx
      · have hx' := hnew _ hx
        simp at hx'

/-! ## The whole note -/

/-- Resolving an outcome touches no group. -/
theorem settle_setGroup {F : Group → Group} {f : Nat} (st : FutState) :
    (r.setGroup g F).settle f st = (r.settle f st).setGroup g F := by
  unfold settle
  simp only [fut_setGroup]
  split
  · rw [foldl_enqueue, foldl_enqueue]
    rfl
  · rfl

/-- Recording a failure commutes with the first half of a note: the two touch different
fields of the group. -/
theorem noteLive_setGroup_errors (hg : g < r.groups.size) (fl : Failure) :
    (r.noteLive g c).setGroup g (fun x => { x with errors := x.errors ++ [fl] }) =
      (r.setGroup g fun x => { x with errors := x.errors ++ [fl] }).noteLive g c := by
  have hswap : ((r.setGroup g fun x => { x with errors := x.errors ++ [fl] }).setGroup g
      fun x => { x with live := x.live.erase c }) =
      ((r.setGroup g fun x => { x with live := x.live.erase c }).setGroup g
        fun x => { x with errors := x.errors ++ [fl] }) := by
    simp only [setGroup, modify_modify_self]
    rfl
  have h1 : (r.setGroup g fun x => { x with live := x.live.erase c }).group g =
      { r.group g with live := (r.group g).live.erase c } := group_setGroup_self r _ hg
  have h2 : ((r.setGroup g fun x => { x with live := x.live.erase c }).setGroup g
      fun x => { x with errors := x.errors ++ [fl] }).group g =
      { r.group g with live := (r.group g).live.erase c, errors := (r.group g).errors ++ [fl] } := by
    rw [group_setGroup_self _ _ (by simpa using hg), h1]
  unfold noteLive
  rw [hswap]
  simp only [h1, h2]
  cases (r.group g).fut with
  | none => rfl
  | some f =>
    by_cases hl : ((r.group g).live.erase c).isEmpty = true
    · simp only [hl, if_true]
      exact (settle_setGroup _).symm
    · simp only [hl]
      rfl

/-- A note of a member that did not fail has nothing to record. -/
theorem noteFailure_of_not_failed (hc : ∀ fl, (r.task c).ending ≠ some (.failed fl)) (grp : Group) :
    r.noteFailure g c grp = r := by
  unfold noteFailure
  split
  · rename_i fl hfl
    exact absurd hfl (hc fl)
  · rfl

/-- **A group's note of a member's end keeps the invariant.**  The member leaves the
group's live members and, if it failed, its failure is recorded; the group's first
failure aborts it, cancelling its live members, and cancels its owner. -/
theorem LoadInv.childDone (h : r.LoadInv S) {rest : List Event}
    (hq : r.queue = .childDone g c :: rest) :
    (({ r with queue := rest } : Run).handle (.childDone g c)).LoadInv S := by
  obtain ⟨hg, hc, hm, hend⟩ := h.tree.childDone g c (by rw [hq]; exact List.mem_cons_self)
  have hc3 := (h.tree.member g c hm).1
  simp only [handle]
  rw [childDone_eq]
  obtain ⟨e, he⟩ := Option.isSome_iff_exists.1 hend
  cases e with
  | ok =>
    rw [noteFailure_of_not_failed (by simp [he])]
    exact h.noteLive hq (.inl he)
  | cancelled =>
    rw [noteFailure_of_not_failed (by simp [he])]
    exact h.noteLive hq (.inr (.inr (h.tree.cancelled g hg c hm he)))
  | failed fl =>
    -- a failure cannot happen in a clean run
    have hnot : TextNames S.source → (fetchedSnapshot S.source).isSome → False := fun hs hfs => by
      cases (h.clean hs hfs).endings c _ (by omega) he
    have hfirst : fl.first ≠ none := h.tree.failed c fl (by omega) he
    -- the failure is recorded first, as the same run
    have hA : (r.setGroup g fun x => { x with errors := x.errors ++ [fl] }).LoadInv S :=
      h.record ⟨rfl, rfl, rfl⟩ ⟨[fl], rfl, by simpa using hfirst⟩ id (fun _ => .inl (by simp))
        id fun hs hfs => (hnot hs hfs).elim
    have hgrp : (({ r with queue := rest } : Run).setGroup g
        fun x => { x with live := x.live.erase c }).group g =
        { r.group g with live := (r.group g).live.erase c } := by
      simp [hg]
    unfold noteFailure
    simp only [task_noteLive, task_pop, he, hgrp]
    rw [noteLive_setGroup_errors (by simpa using hg)]
    -- the run with the failure recorded and the member dropped
    obtain ⟨r3, hr3⟩ : ∃ r3, r3 = (({ r with queue := rest } : Run).setGroup g
        fun x => { x with errors := x.errors ++ [fl] }).noteLive g c := ⟨_, rfl⟩
    have h3 : r3.LoadInv S := by
      rw [hr3]
      exact hA.noteLive hq (.inr (.inl (by simp [hg])))
    rw [← hr3]
    split
    · -- the first failure aborts the group and cancels its owner
      have hg3 : g < r3.groups.size := by
        rw [hr3]
        simpa using hg
      have hgrp3 : (r3.group g).owner = (r.group g).owner ∧ (r3.group g).errors ≠ [] := by
        rw [hr3, group_eq_of_groups (noteLive_groups _), group_setGroup_self _ _ (by simpa using hg),
          group_setGroup_self _ _ (by simpa using hg)]
        simp
      -- the group aborts, for the failure it recorded
      have h4 : (r3.setGroup g fun x => { x with aborting := true }).LoadInv S :=
        h3.record ⟨rfl, rfl, rfl⟩ ⟨[], by simp, by simp⟩ (fun _ => rfl) (fun _ => .inl hgrp3.2) id
          fun hs hfs => (hnot hs hfs).elim
      have hgrp4 : (r3.setGroup g fun x => { x with aborting := true }).group g =
          { r3.group g with aborting := true } := group_setGroup_self _ _ hg3
      have hg4 : g < (r3.setGroup g fun x => { x with aborting := true }).groups.size := by
        simpa using hg3
      -- and cancels its live members
      have h5 : (r3.abort g).LoadInv S := h4.cancels (cancels_abort r3) fun c' hc' =>
        .inl ⟨g, hg4, ((h4.tree.live g hg4).2 c' (by rw [hgrp4]; exact hc')).1, by rw [hgrp4]⟩
      have hgrp5 : (r3.abort g).group g = { r3.group g with aborting := true } := by
        rw [group_eq_of_groups (abort_groups r3), hgrp4]
      have hg5 : g < (r3.abort g).groups.size := by
        rw [abort_groups]
        exact hg4
      -- the owner's cancel is marked, then made
      have h6 : ((r3.abort g).setGroup g fun x => { x with ownerCancelled := true }).LoadInv S :=
        h5.record ⟨rfl, rfl, rfl⟩ ⟨[], by simp, by simp⟩ id (fun ha => h5.tree.abortReason g hg5 ha)
          id fun _ _ => ⟨rfl, rfl, rfl⟩
      have hg6 : g < ((r3.abort g).setGroup g fun x => { x with ownerCancelled := true }).groups.size := by
        rw [setGroup_size]
        exact hg5
      have hgrp6 : (((r3.abort g).setGroup g fun x => { x with ownerCancelled := true }).group g).owner =
          (r.group g).owner ∧
          (((r3.abort g).setGroup g fun x => { x with ownerCancelled := true }).group g).aborting := by
        rw [group_setGroup_self _ _ hg5, hgrp5]
        exact ⟨hgrp3.1, rfl⟩
      exact h6.cancels (cancels_cancelTask _ (r.group g).owner) fun c' hc' =>
        .inr ⟨g, hg6, by rw [List.mem_singleton.1 hc']; exact hgrp6.1, hgrp6.2⟩
    · exact h3

end Run

end SqlAssist.Schema
