import SqlAssist.Proofs.Schema.LoadRun

/-!
# The turns of a lone load above its tree

The invariant of a lone load (`SqlAssist.Schema.Run.LoadInv`) is split by subject, and
most turns touch only a few of its subjects.  This file says, for each part, what a turn
must leave alone for the part to carry over (its *frame*), and then handles the turns
that change nothing under the caller: the client's and the caller's steps, the relay of
the loader's outcome, the cache forgetting the load, and a step of a task that has
already ended.

## Events above and under the caller

The invariant reads the queue through two kinds of event.  The client's and the
caller's steps and the relay (`Event.above`) matter to `LoadTop`; the steps of the tasks
under the caller and the ends their groups note (`Event.under`) matter to `LoadTree`.  A
frame asks that the events of the kind a part reads neither appear nor vanish, except
for the step of a task that has ended.

## Main statements

* `LoadTop.frame`, `LoadTree.frame`, `Progress.frame`, `LoadData.frame`,
  `LoadCache.frame`, `LoadClean.frame`: what each part needs of a turn to carry over.
* `LoadInv.above`: a turn that keeps every task under the caller keeps the invariant
  once it keeps `LoadTop`.
* `LoadInv.step_ended`, `LoadInv.step_client`, `LoadInv.step_caller`, `LoadInv.relay`,
  `LoadInv.forget`: the turns above the tree keep the invariant.
-/

namespace SqlAssist.Schema

/-- The events of the client and the caller: their steps, and what follows the loader's
end for them: the relay of its ending and the forgetting of the load. -/
def Event.above : Event → Bool
  | .step j _ => j < 2
  | .relay .. => true
  | .forget .. => true
  | _ => false

/-- The events under the caller: the steps of the loader's tree and the ends its groups
note. -/
def Event.under : Event → Bool
  | .step j _ => 2 ≤ j
  | .childDone .. => true
  | _ => false

/-- The parts of a task's standing. -/
theorem Task.standing_eq {t t' : Task} (h : t'.standing = t.standing) :
    t'.role = t.role ∧ t'.phase = t.phase ∧ t'.ending = t.ending ∧ t'.callbacks = t.callbacks := by
  simpa [Task.standing] using h

/-- Task `t'` stands where task `t` does and waits on nothing `t` does not: `t` with,
at most, its wait cleared and its cancel mark changed. -/
structure Task.Calmer (t' t : Task) : Prop where
  standing : t'.standing = t.standing
  waitsOn : ∀ f, t'.waitsOn = some f → t.waitsOn = some f

namespace Task.Calmer

variable {t t' : Task}

theorem refl (t : Task) : t.Calmer t := ⟨rfl, fun _ h => h⟩

theorem of_eq (h : t' = t) : t'.Calmer t := h ▸ refl t

theorem clear (t : Task) : ({ t with mustCancel := false, waitsOn := none } : Task).Calmer t :=
  ⟨rfl, fun _ h => by cases h⟩

theorem mark (t : Task) : ({ t with mustCancel := true } : Task).Calmer t := ⟨rfl, fun _ h => h⟩

theorem role (h : t'.Calmer t) : t'.role = t.role := (Task.standing_eq h.standing).1
theorem phase (h : t'.Calmer t) : t'.phase = t.phase := (Task.standing_eq h.standing).2.1
theorem ending (h : t'.Calmer t) : t'.ending = t.ending := (Task.standing_eq h.standing).2.2.1
theorem callbacks (h : t'.Calmer t) : t'.callbacks = t.callbacks :=
  (Task.standing_eq h.standing).2.2.2

end Task.Calmer

/-- The shape of a task reads only its role and phase. -/
theorem LoadSetting.Shape.congr {S : LoadSetting} {j : Nat} {t t' : Task} (hr : t'.role = t.role)
    (hp : t'.phase = t.phase) : S.Shape j t' = S.Shape j t := by
  unfold LoadSetting.Shape
  rw [hr, hp]

namespace Run

variable {S : LoadSetting} {r r' : Run}

/-- Membership reads only the member's callbacks. -/
theorem member_iff {g c : Nat} (h : (r'.task c).callbacks = (r.task c).callbacks) :
    r'.Member g c ↔ r.Member g c := by
  unfold Member
  rw [h]

section Pop

variable (r) (rest : List Event) {i : Nat}

@[simp] theorem task_pop : ({ r with queue := rest } : Run).task i = r.task i := rfl
@[simp] theorem fut_pop : ({ r with queue := rest } : Run).fut i = r.fut i := rfl
@[simp] theorem group_pop : ({ r with queue := rest } : Run).group i = r.group i := rfl

end Pop

/-! ## Frames -/

/-- The client, the caller and the loader carry over a turn that leaves the client and
the caller alone, ends nothing under them, leaves the record of loads in flight alone, and
neither adds nor drops an event of theirs but the step of a task that has ended. -/
theorem LoadTop.frame (h : r.LoadTop S) (hsize : r.tasks.size ≤ r'.tasks.size)
    (h0 : r'.task 0 = r.task 0) (h1 : r'.task 1 = r.task 1)
    (h2 : (r'.task 2).ending = (r.task 2).ending)
    (h2cb : (r'.task 2).callbacks = (r.task 2).callbacks)
    (hfut : r'.fut 0 = r.fut 0) (hfsize : r.futs.size ≤ r'.futs.size)
    (hinfl : r'.world.cache.inflight = r.world.cache.inflight)
    (hnew : ∀ x ∈ r'.queue, x.above = true → x ∈ r.queue)
    (hold : ∀ x ∈ r.queue, x.above = true →
      x ∈ r'.queue ∨ ∃ i th, x = .step i th ∧ (r.task i).ending.isSome) :
    r'.LoadTop S where
  size := le_trans h.size hsize
  client := by
    rw [h0]
    exact h.client
  clientPhase := by
    rw [h0]
    exact h.clientPhase
  clientWaits hend := by
    rw [h0] at hend
    rw [h1]
    rcases h.clientWaits hend with h1' | hq
    · exact .inl h1'
    · rcases hold _ hq rfl with hq' | ⟨i, th, hx, hi⟩
      · exact .inr hq'
      · -- the dropped step would be the client's own, which has not ended
        obtain ⟨rfl, -⟩ := Event.step.inj hx
        simp [hend] at hi
  clientDone := by
    rw [h0]
    exact h.clientDone
  clientStep th hx := by
    rw [h1]
    exact h.clientStep th (hnew _ hx rfl)
  caller := by
    rw [h1]
    exact h.caller
  fut := by
    rw [hfut]
    exact ⟨lt_of_lt_of_le h.fut.1 hfsize, h.fut.2⟩
  futState := by
    rw [hfut, h2]
    rcases h.futState with ⟨hp, h2' | hq⟩ | he
    · exact .inl ⟨hp, .inl h2'⟩
    · rcases hold _ hq rfl with hq' | ⟨i, th, hx, -⟩
      · exact .inl ⟨hp, .inr hq'⟩
      · cases hx
    · exact .inr he
  callerWaits hend := by
    rw [h1] at hend
    rw [hfut]
    rcases h.callerWaits hend with hp | hq
    · exact .inl hp
    · rcases hold _ hq rfl with hq' | ⟨i, th, hx, hi⟩
      · exact .inr hq'
      · obtain ⟨rfl, -⟩ := Event.step.inj hx
        simp [hend] at hi
  callerDone e he := by
    rw [h1] at he
    rw [h2]
    exact h.callerDone e he
  callerStep th hx := by
    rw [hfut]
    exact h.callerStep th (hnew _ hx rfl)
  relay l f hx := by
    rw [h2]
    exact h.relay l f (hnew _ hx rfl)
  loader := by
    rw [h2cb]
    exact h.loader
  loaderEnding := by
    rw [h2]
    exact h.loaderEnding
  forgets n l hx := h.forgets n l (hnew _ hx rfl)
  inflight := by
    rw [hinfl, h2]
    rcases h.inflight with ⟨heq, hend | hq⟩ | herase
    · exact .inl ⟨heq, .inl hend⟩
    · rcases hold _ hq rfl with hq' | ⟨i, th, hx, -⟩
      · exact .inl ⟨heq, .inr hq'⟩
      · cases hx
    · exact .inr herase

/-- Dropping the first event keeps `LoadTop` when the event is not the client's or the
caller's, or is a step of a task that has ended. -/
theorem LoadTop.pop (h : r.LoadTop S) {e : Event} {rest : List Event} (hq : r.queue = e :: rest)
    (he : e.above = true → ∃ i th, e = .step i th ∧ (r.task i).ending.isSome) :
    ({ r with queue := rest } : Run).LoadTop S := by
  refine h.frame le_rfl rfl rfl rfl rfl rfl le_rfl rfl (fun x hx _ => by rw [hq]; exact .tail _ hx) ?_
  intro x hx hab
  rw [hq] at hx
  rcases List.mem_cons.1 hx with rfl | hx
  · exact .inr (he hab)
  · exact .inl hx

/-- The tree carries over a turn that keeps the standing of every task under the caller,
sets no wait, keeps every group, keeps each outcome that stays pending and the ends of
members to be noted, and cancels only members and owners of aborting groups. -/
theorem LoadTree.frame (h : r.LoadTree S) (hsize : r'.tasks.size = r.tasks.size)
    (hcalm : ∀ j, 2 ≤ j → (r'.task j).Calmer (r.task j))
    (hcb : ∀ j, (r'.task j).callbacks = (r.task j).callbacks)
    (hgroups : r'.groups = r.groups)
    (hpend : ∀ f, (r'.fut f).state = .pending → r'.fut f = r.fut f)
    (hchild : ∀ g c, .childDone g c ∈ r'.queue ↔ .childDone g c ∈ r.queue)
    (hcancel : ∀ j, 2 ≤ j → (r'.task j).mustCancel = true ∨ .step j true ∈ r'.queue →
      ((r.task j).mustCancel = true ∨ .step j true ∈ r.queue) ∨
        (∃ g < r.groups.size, r.Member g j ∧ (r.group g).aborting) ∨
        (∃ g < r.groups.size, (r.group g).owner = j ∧ (r.group g).aborting)) :
    r'.LoadTree S := by
  have hgroup := group_eq_of_groups hgroups
  have hmem : ∀ g c, r'.Member g c ↔ r.Member g c := fun g c => member_iff (hcb c)
  -- members sit under the loader, where standings are kept
  have hmcalm : ∀ g c, r.Member g c → (r'.task c).Calmer (r.task c) := fun g c hm =>
    hcalm c (le_trans (by omega) (h.member g c hm).1)
  refine
    { shape := fun j h2 hj => ?_
      fresh := fun he hph => ?_
      sub := fun j h3 hj => ?_
      member := fun g c hm => ?_
      owner := fun g hg => ?_
      grouped := fun j g h2 hph => ?_
      live := fun g hg => ?_
      livePending := fun g hg c hc => ?_
      noted := fun g hg c hc hm hnl => ?_
      childDone := fun g c hx => ?_
      groupFut := fun g hg f hf hp => ?_
      waitsOn := fun j f h2 hw hp => ?_
      errors := fun g hg => ?_
      failed := fun j f h2 he => ?_
      abortReason := fun g hg ha => ?_
      outside := fun g hg ho => ?_
      cancelled := fun g hg c hm he => ?_
      cancelSource := fun j h2 hc => ?_ }
  · rw [LoadSetting.Shape.congr (hcalm j h2).role (hcalm j h2).phase]
    exact h.shape j h2 (hsize ▸ hj)
  · rw [(hcalm 2 le_rfl).ending] at he
    rw [(hcalm 2 le_rfl).phase] at hph
    rw [hsize, hgroups]
    exact h.fresh he hph
  · obtain ⟨g, hg, hm⟩ := h.sub j h3 (hsize ▸ hj)
    exact ⟨g, hgroups ▸ hg, (hmem g j).2 hm⟩
  · rw [hsize, hgroups]
    exact h.member g c ((hmem g c).1 hm)
  · rw [hgroups] at hg
    obtain ⟨h2, hlt, hph⟩ := h.owner g hg
    rw [hgroup, hsize, (hcalm _ h2).phase, (hcalm _ h2).ending]
    exact ⟨h2, hlt, hph⟩
  · rw [(hcalm j h2).phase] at hph
    rw [hgroups, hgroup]
    exact h.grouped j g h2 hph
  · rw [hgroups] at hg
    rw [hgroup]
    obtain ⟨hnd, hc⟩ := h.live g hg
    refine ⟨hnd, fun c hc' => ?_⟩
    obtain ⟨hm, hown, hlt⟩ := hc c hc'
    exact ⟨(hmem g c).2 hm, hown, hsize ▸ hlt⟩
  · rw [hgroups] at hg
    rw [hgroup] at hc
    rw [(hmcalm g c ((h.live g hg).2 c hc).1).ending]
    exact (h.livePending g hg c hc).imp_right (hchild g c).2
  · rw [hgroups] at hg
    rw [hgroup] at hnl ⊢
    have hm' := (hmem g c).1 hm
    rw [(hmcalm g c hm').ending]
    exact h.noted g hg c (hsize ▸ hc) hm' hnl
  · obtain ⟨hg, hc, hm, he⟩ := h.childDone g c ((hchild g c).1 hx)
    rw [hgroups, hsize, hmem, (hmcalm g c hm).ending]
    exact ⟨hg, hc, hm, he⟩
  · rw [hgroups] at hg
    rw [hgroup] at hf ⊢
    have hkept := hpend f hp
    rw [hkept] at hp ⊢
    exact h.groupFut g hg f hf hp
  · have hw' := (hcalm j h2).waitsOn f hw
    have hkept := hpend f hp
    rw [hkept] at hp ⊢
    exact h.waitsOn j f h2 hw' hp
  · rw [hgroups] at hg
    rw [hgroup]
    exact h.errors g hg
  · rw [(hcalm j h2).ending] at he
    exact h.failed j f h2 he
  · rw [hgroups] at hg
    rw [hgroup] at ha ⊢
    exact h.abortReason g hg ha
  · rw [hgroups] at hg
    rw [hgroup] at ho ⊢
    obtain ⟨g', hg', hm, ha⟩ := h.outside g hg ho
    exact ⟨g', hgroups ▸ hg', (hmem _ _).2 hm, by rw [hgroup]; exact ha⟩
  · rw [hgroups] at hg
    rw [hgroup]
    have hm' := (hmem g c).1 hm
    rw [(hmcalm g c hm').ending] at he
    exact h.cancelled g hg c hm' he
  · have hsrc : (∃ g < r.groups.size, r.Member g j ∧ (r.group g).aborting) ∨
        (∃ g < r.groups.size, (r.group g).owner = j ∧ (r.group g).aborting) := by
      rcases hcancel j h2 hc with hc' | hsrc
      · exact h.cancelSource j h2 hc'
      · exact hsrc
    rcases hsrc with ⟨g, hg, hm, ha⟩ | ⟨g, hg, ho, ha⟩
    · exact .inl ⟨g, hgroups ▸ hg, (hmem g j).2 hm, by rw [hgroup]; exact ha⟩
    · exact .inr ⟨g, hgroups ▸ hg, by rw [hgroup]; exact ho, by rw [hgroup]; exact ha⟩

/-- A task keeps its progress through a turn that keeps where it stands and what it
waits on, the outcome and the live members of the group it checks, the pending outcome
it may wait on, and a queued step of it. -/
theorem Progress.frame {k : Nat} (h : r.Progress k) (hcalm : (r'.task k).Calmer (r.task k))
    (hwait : (r'.task k).waitsOn = (r.task k).waitsOn)
    (hgroup : ∀ g, (r.task k).phase = .grouped g →
      (r'.group g).fut = (r.group g).fut ∧ (r'.group g).live = (r.group g).live)
    (hkeep : ∀ f, (r.fut f).state = .pending → (r.fut f).waiters = [k] → r'.fut f = r.fut f)
    (hstep : (r.task k).ending = none → r.StepQueued k → r'.StepQueued k) : r'.Progress k := by
  intro hend
  rw [hcalm.ending] at hend
  rcases h hend with hq | ⟨g, f, hph, hgf, hw, hp, hws, hlive⟩
  · exact .inl (hstep hend hq)
  · have hf := hkeep f hp hws
    obtain ⟨hgf', hgl'⟩ := hgroup g hph
    refine .inr ⟨g, f, by rw [hcalm.phase]; exact hph, by rw [hgf']; exact hgf,
      by rw [hwait]; exact hw, by rw [hf]; exact hp, by rw [hf]; exact hws, by rw [hgl']; exact hlive⟩

/-- What a task has filed reads only its role and the loader's store. -/
theorem Filed.congr {j : Nat} (hrole : (r'.task j).role = (r.task j).role)
    (hstore : r'.store 2 = r.store 2) : r'.Filed S j ↔ r.Filed S j := by
  unfold Filed
  rw [hrole, hstore]

/-- The loader's store carries over a turn that keeps it, the roles and callbacks of all
tasks, and the owners of the groups, that puts no task into a group's check it was not
in, and that ends a task under the caller well only once it has filed what it fetched. -/
theorem LoadData.frame (h : r.LoadData S) (hstore : r'.store 2 = r.store 2)
    (hrole : ∀ j, (r'.task j).role = (r.task j).role)
    (hcb : ∀ j, (r'.task j).callbacks = (r.task j).callbacks)
    (hgrouped : ∀ j g, 2 ≤ j → (r'.task j).phase = .grouped g → (r.task j).phase = .grouped g)
    (hok : ∀ j, 2 ≤ j → (r'.task j).ending = some .ok →
      (r.task j).ending = some .ok ∨ r'.Filed S j)
    (hsize : r'.groups.size = r.groups.size)
    (howner : ∀ g, (r'.group g).owner = (r.group g).owner) : r'.LoadData S := by
  have hmem : ∀ g c, r'.Member g c ↔ r.Member g c := fun g c => member_iff (hcb c)
  refine
    { tables := fun e he => ?_
      columns := fun e he => ?_
      dbRole := fun j d hr => h.dbRole j d ((hrole j).symm.trans hr)
      columnsRole := fun j d t hr => h.columnsRole j d t ((hrole j).symm.trans hr)
      cover := fun g hg => ?_
      dbGrouped := fun j d g h2 hr hph => ?_
      filed := fun j h2 he => ?_ }
  · rw [hstore] at he
    exact h.tables e he
  · rw [hstore] at he
    exact h.columns e he
  · rw [hsize] at hg
    rw [howner, hrole]
    obtain ⟨hl, hd⟩ := h.cover g hg
    refine ⟨fun ho => ?_, fun d hr => ?_⟩
    · obtain ⟨dbs, hdbs, hst, hc⟩ := hl ho
      exact ⟨dbs, hdbs, hstore ▸ hst, fun d hd => by
        obtain ⟨c, hm, hr⟩ := hc d hd
        exact ⟨c, (hmem g c).2 hm, (hrole c).trans hr⟩⟩
    · obtain ⟨ts, hts, hc⟩ := hd d hr
      exact ⟨ts, hts, fun t ht => by
        obtain ⟨c, hm, hr⟩ := hc t ht
        exact ⟨c, (hmem g c).2 hm, (hrole c).trans hr⟩⟩
  · rw [hrole] at hr
    rw [hstore]
    exact h.dbGrouped j d g h2 hr (hgrouped j g h2 hph)
  · rcases hok j h2 he with he' | hf
    · exact (Filed.congr (hrole j) hstore).2 (h.filed j h2 he')
    · exact hf

/-- The cache part carries over a turn that keeps the snapshots, the generations and the
loader's ending, and whose sources answer as before. -/
theorem LoadCache.frame (h : r.LoadCache S)
    (hsnap : r'.world.cache.snapshots = r.world.cache.snapshots)
    (hgen : r'.world.cache.generations = r.world.cache.generations)
    (hsrc : S.SourcesFrom r'.world.sources)
    (hend : (r'.task 2).ending = (r.task 2).ending) : r'.LoadCache S where
  others n hn := by
    simp only [Cache.snapshot?, hsnap]
    exact h.others n hn
  unpublished he := by
    rw [hend] at he
    simp only [Cache.snapshot?, hsnap]
    exact h.unpublished he
  published hs he := by
    rw [hend] at he
    simp only [Cache.snapshot?, hsnap]
    exact h.published hs he
  publishedSome he := by
    rw [hend] at he
    simp only [Cache.snapshot?, hsnap]
    exact h.publishedSome he
  generations := hgen.trans h.generations
  sources := hsrc

/-- A clean run stays clean through a turn that ends tasks under the caller only well,
marks no cancel, records no failure or abort and queues no cancelled step. -/
theorem LoadClean.frame (h : r.LoadClean)
    (hend : ∀ j e, 2 ≤ j → (r'.task j).ending = some e → (r.task j).ending = some e ∨ e = .ok)
    (hmc : ∀ j, 2 ≤ j → (r'.task j).mustCancel = true → (r.task j).mustCancel = true)
    (hgroup : ∀ g, (r'.group g).errors = (r.group g).errors ∧
      (r'.group g).aborting = (r.group g).aborting ∧
      (r'.group g).outsideCancel = (r.group g).outsideCancel)
    (hq : ∀ j, 2 ≤ j → .step j true ∈ r'.queue → .step j true ∈ r.queue) : r'.LoadClean where
  endings j e h2 he := by
    rcases hend j e h2 he with he' | hok
    · exact h.endings j e h2 he'
    · exact hok
  groups g := by
    obtain ⟨he, ha, ho⟩ := hgroup g
    rw [he, ha, ho]
    exact h.groups g
  noCancel j h2 := by
    refine ⟨?_, fun hx => (h.noCancel j h2).2 (hq j h2 hx)⟩
    cases hmc' : (r'.task j).mustCancel with
    | false => rfl
    | true => exact absurd (hmc j h2 hmc') (by simp [(h.noCancel j h2).1])

/-! ## Turns above the tree -/

/-- **A turn that keeps the tree keeps the invariant.**  When a turn keeps every task
under the caller, the groups, the stores, the pending outcomes of the tree, the events
under the caller, the snapshots, generations and sources, and keeps `LoadTop`, the
whole invariant carries over. -/
theorem LoadInv.above (h : r.LoadInv S) (htop : r'.LoadTop S)
    (hsize : r'.tasks.size = r.tasks.size)
    (htask : ∀ j, 2 ≤ j → r'.task j = r.task j)
    (hrole : ∀ j, (r'.task j).role = (r.task j).role)
    (hcb : ∀ j, (r'.task j).callbacks = (r.task j).callbacks)
    (hgroups : r'.groups = r.groups) (hstores : r'.stores = r.stores)
    (hpend : ∀ f, (r'.fut f).state = .pending → r'.fut f = r.fut f)
    (hkeep : ∀ f, (r.fut f).state = .pending → (r.fut f).waiters ≠ [1] → r'.fut f = r.fut f)
    (hnew : ∀ x ∈ r'.queue, x.under = true → x ∈ r.queue)
    (hold : ∀ x ∈ r.queue, x.under = true →
      x ∈ r'.queue ∨ ∃ i th, x = .step i th ∧ ((r.task i).ending.isSome ∨ r.tasks.size ≤ i))
    (hsnap : r'.world.cache.snapshots = r.world.cache.snapshots)
    (hgen : r'.world.cache.generations = r.world.cache.generations)
    (hsrc : r'.world.sources = r.world.sources) : r'.LoadInv S := by
  have hend : ∀ j, 2 ≤ j → (r'.task j).ending = (r.task j).ending := fun j h2 => by
    rw [htask j h2]
  have hchild : ∀ g c, .childDone g c ∈ r'.queue ↔ .childDone g c ∈ r.queue := fun g c => by
    refine ⟨fun hx => hnew _ hx rfl, fun hx => ?_⟩
    rcases hold _ hx rfl with hx' | ⟨i, th, hx', -⟩
    · exact hx'
    · cases hx'
  have hcancel : ∀ j, 2 ≤ j → (r'.task j).mustCancel = true ∨ .step j true ∈ r'.queue →
      (r.task j).mustCancel = true ∨ .step j true ∈ r.queue := fun j h2 hc => by
    rw [htask j h2] at hc
    exact hc.imp_right fun hx => hnew _ hx (by simpa [Event.under] using h2)
  refine ⟨htop, h.tree.frame hsize (fun j h2 => .of_eq (htask j h2)) hcb hgroups hpend hchild
    (fun j h2 hc => .inl (hcancel j h2 hc)), fun j h2 hj => ?_,
    fun hs => (h.data hs).frame (by simp only [store, hstores]) hrole hcb
      (fun j g h2 => by rw [htask j h2]; exact id) (fun j h2 he => .inl (by rwa [← hend j h2]))
      (by rw [hgroups]) (fun g => by rw [group_eq_of_groups hgroups]),
    h.cache.frame hsnap hgen (hsrc ▸ h.cache.sources) (hend 2 le_rfl),
    fun hs hf => (h.clean hs hf).frame (fun j e h2 he => .inl (by rwa [← hend j h2]))
      (fun j h2 => by rw [htask j h2]; exact id)
      (fun g => by rw [group_eq_of_groups hgroups]; exact ⟨rfl, rfl, rfl⟩)
      fun j h2 hx => hnew _ hx (by simpa [Event.under] using h2)⟩
  -- a task under the caller keeps its queued step unless that step was of an ended task
  refine (h.progress j h2 (hsize ▸ hj)).frame (.of_eq (htask j h2)) (by rw [htask j h2])
    (fun g _ => by rw [group_eq_of_groups hgroups]; exact ⟨rfl, rfl⟩)
    (fun f hp hw => hkeep f hp (by rw [hw]; simp only [ne_eq, List.cons.injEq, and_true]; omega))
    fun hj0 hq => ?_
  obtain ⟨th, hx⟩ := hq
  rcases hold _ hx (by simpa [Event.under] using h2) with hx' | ⟨i, th', hx', hi | hi⟩
  · exact ⟨th, hx'⟩
  · obtain ⟨rfl, -⟩ := Event.step.inj hx'
    simp [hj0] at hi
  · obtain ⟨rfl, -⟩ := Event.step.inj hx'
    omega

/-- **A step of an ended task, or of no task, changes nothing.** -/
theorem LoadInv.step_ended (h : r.LoadInv S) {i : Nat} {th : Bool} {rest : List Event}
    (hq : r.queue = .step i th :: rest) (hi : (r.task i).ending.isSome ∨ r.tasks.size ≤ i) :
    (({ r with queue := rest } : Run).handle (.step i th)).LoadInv S := by
  have hres : ({ r with queue := rest } : Run).handle (.step i th) = { r with queue := rest } := by
    simp only [handle]
    rcases hi with hi | hi
    · rw [stepTask_eq]
      exact if_pos hi
    · exact stepTask_of_size_le ({ r with queue := rest } : Run) hi th
  rw [hres]
  have hold : ∀ x ∈ r.queue, x ∈ rest ∨
      ∃ i' th', x = .step i' th' ∧ ((r.task i').ending.isSome ∨ r.tasks.size ≤ i') :=
    fun x hx => by
      rw [hq] at hx
      rcases List.mem_cons.1 hx with rfl | hx
      · exact .inr ⟨i, th, rfl, hi⟩
      · exact .inl hx
  -- a task beyond the run is none of the client, the caller and the loader
  have hpop : Event.above (.step i th) = true → ∃ i' th', Event.step i th = .step i' th' ∧
      (r.task i').ending.isSome := fun hab => by
    refine ⟨i, th, rfl, hi.resolve_right fun hle => ?_⟩
    have := h.top.size
    simp only [Event.above, decide_eq_true_eq] at hab
    omega
  refine h.above (h.top.pop hq hpop) rfl (fun _ _ => rfl) (fun _ => rfl)
    (fun _ => rfl) rfl rfl (fun _ _ => rfl) (fun _ _ _ => rfl)
    (fun x hx _ => by rw [hq]; exact .tail _ hx) (fun x hx _ => hold x hx) rfl rfl rfl

/-- The step of the client, once its caller has ended: it clears its flags, finds the
caller ended and ends well, with nothing to queue. -/
theorem handle_step_client (h : r.LoadTop S) {th : Bool} {rest : List Event}
    (hq : r.queue = .step 0 th :: rest) (hend : (r.task 0).ending = none) :
    ({ r with queue := rest } : Run).handle (.step 0 th) =
      (({ r with queue := rest } : Run).setTask 0
        fun t => { t with mustCancel := false, waitsOn := none }).finish 0 .ok := by
  have hph := h.clientPhase
  have h1 := h.clientStep th (by rw [hq]; exact List.mem_cons_self)
  simp only [handle]
  rw [stepTask_eq, task_pop, if_neg (by simp [hend]), h.client.1, hph]
  simp only [resume, clientAwait, task_setTask_ne _ _ (by omega : (0 : Nat) ≠ 1), task_pop, h1,
    if_true]

/-- **The client's step keeps the invariant.** -/
theorem LoadInv.step_client (h : r.LoadInv S) {th : Bool} {rest : List Event}
    (hq : r.queue = .step 0 th :: rest) :
    (({ r with queue := rest } : Run).handle (.step 0 th)).LoadInv S := by
  by_cases hi : (r.task 0).ending.isSome
  · exact h.step_ended hq (.inl hi)
  have hend : (r.task 0).ending = none := by simpa using hi
  have hsize := h.top.size
  have h0 : 0 < r.tasks.size := by omega
  obtain ⟨hrole, hcb⟩ := h.top.client
  rw [handle_step_client h.top hq hend]
  -- only the client changes: it ends well, and its callbacks queue nothing
  have hqueue : ((({ r with queue := rest } : Run).setTask 0
      fun t => { t with mustCancel := false, waitsOn := none }).finish 0 .ok).queue = rest := by
    simp [hcb, h0]
  have htask : ∀ j, j ≠ 0 → ((({ r with queue := rest } : Run).setTask 0
      fun t => { t with mustCancel := false, waitsOn := none }).finish 0 .ok).task j = r.task j :=
    fun j hj => by simp [Ne.symm hj]
  have htask0 : ((({ r with queue := rest } : Run).setTask 0
      fun t => { t with mustCancel := false, waitsOn := none }).finish 0 .ok).task 0 =
      { r.task 0 with mustCancel := false, waitsOn := none, ending := some .ok } := by
    simp [h0]
  have hsize' : ((({ r with queue := rest } : Run).setTask 0
      fun t => { t with mustCancel := false, waitsOn := none }).finish 0 .ok).tasks.size =
      r.tasks.size := by simp
  have hfut : ∀ f, ((({ r with queue := rest } : Run).setTask 0
      fun t => { t with mustCancel := false, waitsOn := none }).finish 0 .ok).fut f = r.fut f :=
    fun f => by simp [fut]
  have hworld : ((({ r with queue := rest } : Run).setTask 0
      fun t => { t with mustCancel := false, waitsOn := none }).finish 0 .ok).world = r.world := by
    simp
  have hgroups : ((({ r with queue := rest } : Run).setTask 0
      fun t => { t with mustCancel := false, waitsOn := none }).finish 0 .ok).groups = r.groups := by
    simp
  have hstores : ((({ r with queue := rest } : Run).setTask 0
      fun t => { t with mustCancel := false, waitsOn := none }).finish 0 .ok).stores = r.stores := by
    simp
  have hfsize : ((({ r with queue := rest } : Run).setTask 0
      fun t => { t with mustCancel := false, waitsOn := none }).finish 0 .ok).futs.size =
      r.futs.size := by simp
  generalize (({ r with queue := rest } : Run).setTask 0
      fun t => { t with mustCancel := false, waitsOn := none }).finish 0 .ok = r'
    at hqueue htask htask0 hsize' hfut hworld hgroups hstores hfsize ⊢
  have hnew : ∀ x ∈ r'.queue, x ∈ r.queue := fun x hx => by
    rw [hq, ← hqueue]
    exact .tail _ hx
  have hold : ∀ x ∈ r.queue, x ≠ .step 0 th → x ∈ r'.queue := fun x hx hne => by
    rw [hq] at hx
    rw [hqueue]
    exact (List.mem_cons.1 hx).resolve_left hne
  have h1 := htask 1 (by omega)
  have h2 := htask 2 (by omega)
  have htop : r'.LoadTop S := by
    refine
      { size := hsize' ▸ hsize
        client := by rw [htask0]; exact ⟨hrole, hcb⟩
        clientPhase := by rw [htask0]; exact h.top.clientPhase
        clientWaits := fun he => by rw [htask0] at he; cases he
        clientDone := .inr (by rw [htask0])
        clientStep := fun th' hx => by rw [h1]; exact h.top.clientStep th' (hnew _ hx)
        caller := by rw [h1]; exact h.top.caller
        fut := by rw [hfut, hfsize]; exact h.top.fut
        futState := ?_
        callerWaits := fun he => ?_
        callerDone := fun e he => by rw [h1] at he; rw [h2]; exact h.top.callerDone e he
        callerStep := fun th' hx => by rw [hfut]; exact h.top.callerStep th' (hnew _ hx)
        relay := fun l f hx => by rw [h2]; exact h.top.relay l f (hnew _ hx)
        loader := by rw [h2]; exact h.top.loader
        loaderEnding := by rw [h2]; exact h.top.loaderEnding
        forgets := fun n l hx => h.top.forgets n l (hnew _ hx)
        inflight := ?_ }
    · rw [hfut, h2]
      rcases h.top.futState with ⟨hp, h2' | hx⟩ | he
      · exact .inl ⟨hp, .inl h2'⟩
      · exact .inl ⟨hp, .inr (hold _ hx (by simp))⟩
      · exact .inr he
    · rw [h1] at he
      rw [hfut]
      exact (h.top.callerWaits he).imp_right fun hx => hold _ hx (by simp)
    · rw [hworld, h2]
      exact h.top.inflight.imp_left fun hi => ⟨hi.1, hi.2.imp_right fun hx => hold _ hx (by simp)⟩
  refine h.above htop hsize' (fun j hj => htask j (by omega)) (fun j => ?_) (fun j => ?_) hgroups
    hstores (fun f _ => hfut f) (fun f _ _ => hfut f) (fun x hx _ => hnew x hx)
    (fun x hx hu => .inl (hold x hx fun hx' => by rw [hx'] at hu; simp [Event.under] at hu))
    (by rw [hworld]) (by rw [hworld]) (by rw [hworld])
  · by_cases hj : j = 0
    · subst hj
      rw [htask0]
    · rw [htask j hj]
  · by_cases hj : j = 0
    · subst hj
      rw [htask0]
    · rw [htask j hj]

/-- A step of a task with its flags cleared and the task ended: what changes. -/
theorem clear_finish_views (r : Run) (rest : List Event) {i : Nat} (hi : i < r.tasks.size)
    (e : Ending) :
    let r' := (({ r with queue := rest } : Run).setTask i
      fun t => { t with mustCancel := false, waitsOn := none }).finish i e
    r'.tasks.size = r.tasks.size ∧ r'.world = r.world ∧ r'.groups = r.groups ∧
      r'.stores = r.stores ∧ r'.futs = r.futs ∧
      r'.queue = rest ++ (r.task i).callbacks.map (Callback.event i) ∧
      (∀ j, j ≠ i → r'.task j = r.task j) ∧
      r'.task i = { r.task i with mustCancel := false, waitsOn := none, ending := some e } := by
  refine ⟨by simp, by simp, by simp, by simp, by simp, by simp [hi], fun j hj => by simp [Ne.symm hj],
    by simp [hi]⟩

/-- The step of the caller, once the outcome it waits on is resolved: it ends with that
outcome and wakes the client. -/
theorem handle_step_caller (h : r.LoadTop S) {th : Bool} {rest : List Event} {e : Ending}
    (hend : (r.task 1).ending = none) (hf : (r.fut 0).state = .resolved e) :
    ({ r with queue := rest } : Run).handle (.step 1 th) =
      (({ r with queue := rest } : Run).setTask 1
        fun t => { t with mustCancel := false, waitsOn := none }).finish 1 e := by
  obtain ⟨hrole, -, hph⟩ := h.caller
  simp only [fut] at hf
  simp only [handle]
  rw [stepTask_eq, task_pop, if_neg (by simp [hend]), hrole, hph]
  simp only [resume, setTask_futs, fut, hf]

/-- **The caller's step keeps the invariant.**  The caller steps once the loader's
outcome is relayed to it; it ends with that outcome and wakes the client. -/
theorem LoadInv.step_caller (h : r.LoadInv S) {th : Bool} {rest : List Event}
    (hq : r.queue = .step 1 th :: rest) :
    (({ r with queue := rest } : Run).handle (.step 1 th)).LoadInv S := by
  by_cases hi : (r.task 1).ending.isSome
  · exact h.step_ended hq (.inl hi)
  have hend : (r.task 1).ending = none := by simpa using hi
  have hsize := h.top.size
  obtain ⟨e, hf⟩ := h.top.callerStep th (by rw [hq]; exact List.mem_cons_self)
  -- the outcome the caller waits on is the loader's ending
  have hloader : (r.task 2).ending = some e := by
    rcases h.top.futState with ⟨hp, -⟩ | ⟨e', hf', he'⟩
    · rw [hf] at hp; cases hp
    · rw [hf] at hf'
      cases hf'
      exact he'
  obtain ⟨hrole, hcb, hph⟩ := h.top.caller
  rw [handle_step_caller h.top hend hf]
  obtain ⟨hsize', hworld, hgroups, hstores, hfuts, hqueue, htask, htask1⟩ :=
    clear_finish_views r rest (i := 1) (by omega) e
  generalize (({ r with queue := rest } : Run).setTask 1
      fun t => { t with mustCancel := false, waitsOn := none }).finish 1 e = r'
    at hsize' hworld hgroups hstores hfuts hqueue htask htask1 ⊢
  rw [hcb] at hqueue
  have hfut : ∀ f, r'.fut f = r.fut f := fun f => by simp only [fut, hfuts]
  have hnew : ∀ x ∈ r'.queue, x ∈ r.queue ∨ x = .step 0 false := fun x hx => by
    rw [hqueue] at hx
    rcases List.mem_append.1 hx with hx | hx
    · rw [hq]
      exact .inl (.tail _ hx)
    · simp only [List.map_cons, List.map_nil, List.mem_singleton] at hx
      exact .inr hx
  have hold : ∀ x ∈ r.queue, x ≠ .step 1 th → x ∈ r'.queue := fun x hx hne => by
    rw [hq] at hx
    rw [hqueue]
    exact List.mem_append_left _ ((List.mem_cons.1 hx).resolve_left hne)
  have hwake : Event.step 0 false ∈ r'.queue := by
    rw [hqueue]
    simp [Callback.event]
  have h0 := htask 0 (by omega)
  have h2 := htask 2 (by omega)
  have htop : r'.LoadTop S := by
    refine
      { size := hsize' ▸ hsize
        client := by rw [h0]; exact h.top.client
        clientPhase := by rw [h0]; exact h.top.clientPhase
        clientWaits := fun _ => .inr hwake
        clientDone := by rw [h0]; exact h.top.clientDone
        clientStep := fun th' _ => by rw [htask1]; rfl
        caller := by rw [htask1]; exact ⟨hrole, hcb, hph⟩
        fut := by rw [hfut, hfuts]; exact h.top.fut
        futState := .inr ⟨e, by rw [hfut]; exact hf, by rw [h2]; exact hloader⟩
        callerWaits := fun he => by rw [htask1] at he; cases he
        callerDone := fun e' he' => ?_
        callerStep := fun th' hx => ⟨e, by rw [hfut]; exact hf⟩
        relay := fun l f hx => ?_
        loader := by rw [h2]; exact h.top.loader
        loaderEnding := by rw [h2]; exact h.top.loaderEnding
        forgets := fun n l hx => ?_
        inflight := ?_ }
    · rw [htask1] at he'
      cases he'
      rw [h2]
      exact hloader
    · rw [h2]
      rcases hnew _ hx with hx | hx
      · exact h.top.relay l f hx
      · cases hx
    · rcases hnew _ hx with hx | hx
      · exact h.top.forgets n l hx
      · cases hx
    · rw [hworld, h2]
      exact h.top.inflight.imp_left fun hi => ⟨hi.1, hi.2.imp_right fun hx => hold _ hx (by simp)⟩
  refine h.above htop hsize' (fun j hj => htask j (by omega)) (fun j => ?_) (fun j => ?_) hgroups
    hstores (fun f _ => hfut f) (fun f _ _ => hfut f) (fun x hx hu => ?_)
    (fun x hx hu => .inl (hold x hx fun hx' => by rw [hx'] at hu; simp [Event.under] at hu))
    (by rw [hworld]) (by rw [hworld]) (by rw [hworld])
  · by_cases hj : j = 1
    · subst hj
      rw [htask1]
    · rw [htask j hj]
  · by_cases hj : j = 1
    · subst hj
      rw [htask1]
    · rw [htask j hj]
  · rcases hnew x hx with hx' | rfl
    · exact hx'
    · simp [Event.under] at hu

/-- The client, the caller and the loader once the caller's outcome is resolved as the
loader's ending: the tasks are as they were, and the queue is as it was but for the
relay, with the caller's wake if the caller has not ended. -/
theorem LoadTop.of_resolved (h : r.LoadTop S) (htask : ∀ j, r'.task j = r.task j)
    (hsize : r'.tasks.size = r.tasks.size) (hfut : 0 < r'.futs.size ∧ (r'.fut 0).waiters = [1])
    (hres : ∃ e, (r'.fut 0).state = .resolved e ∧ (r.task 2).ending = some e)
    (hnew : ∀ x ∈ r'.queue, x ∈ r.queue ∨ x = .step 1 false)
    (hold : ∀ x ∈ r.queue, x.above = true → x = .relay 2 0 ∨ x ∈ r'.queue)
    (hwake : (r.task 1).ending = none → .step 1 false ∈ r'.queue)
    (hinfl : r'.world.cache.inflight = r.world.cache.inflight) : r'.LoadTop S := by
  obtain ⟨e, hf, he⟩ := hres
  refine
    { size := hsize ▸ h.size
      client := by rw [htask]; exact h.client
      clientPhase := by rw [htask]; exact h.clientPhase
      clientWaits := fun hend => ?_
      clientDone := by rw [htask]; exact h.clientDone
      clientStep := fun th hx => ?_
      caller := by rw [htask]; exact h.caller
      fut := hfut
      futState := .inr ⟨e, hf, by rw [htask]; exact he⟩
      callerWaits := fun hend => .inr (hwake (by rwa [htask] at hend))
      callerDone := fun e' he' => by rw [htask] at he' ⊢; exact h.callerDone e' he'
      callerStep := fun _ _ => ⟨e, hf⟩
      relay := fun l f hx => ?_
      loader := by rw [htask]; exact h.loader
      loaderEnding := by rw [htask]; exact h.loaderEnding
      forgets := fun n l hx => ?_
      inflight := ?_ }
  · rw [htask] at hend
    rw [htask]
    rcases h.clientWaits hend with h1 | hx
    · exact .inl h1
    · rcases hold _ hx rfl with hx' | hx'
      · cases hx'
      · exact .inr hx'
  · rw [htask]
    rcases hnew _ hx with hx' | hx'
    · exact h.clientStep th hx'
    · cases hx'
  · rw [htask]
    rcases hnew _ hx with hx' | hx'
    · exact h.relay l f hx'
    · cases hx'
  · rcases hnew _ hx with hx' | hx'
    · exact h.forgets n l hx'
    · cases hx'
  · rw [hinfl, htask]
    refine h.inflight.imp_left fun hi => ⟨hi.1, hi.2.imp_right fun hx => ?_⟩
    rcases hold _ hx rfl with hx' | hx'
    · cases hx'
    · exact hx'

/-- **The relay keeps the invariant.**  The loader's ending resolves the outcome the
caller waits on, which wakes the caller. -/
theorem LoadInv.relay (h : r.LoadInv S) {l f : Nat} {rest : List Event}
    (hq : r.queue = .relay l f :: rest) :
    (({ r with queue := rest } : Run).handle (.relay l f)).LoadInv S := by
  obtain ⟨rfl, rfl, hended⟩ := h.top.relay l f (by rw [hq]; exact List.mem_cons_self)
  obtain ⟨e, he⟩ := Option.isSome_iff_exists.1 hended
  have hne : e ≠ .cancelled := fun hc => h.top.loaderEnding (hc ▸ he)
  have hres : ({ r with queue := rest } : Run).handle (.relay 2 0) =
      ({ r with queue := rest } : Run).settle 0 (.resolved e) := by
    simp only [handle, task_pop, he]
  rw [hres]
  have hold : ∀ x ∈ r.queue, x ≠ .relay 2 0 → x ∈ rest := fun x hx hne => by
    rw [hq] at hx
    exact (List.mem_cons.1 hx).resolve_left hne
  have hpop : ∀ x ∈ rest, x ∈ r.queue := fun x hx => by
    rw [hq]
    exact .tail _ hx
  have hws := h.top.fut.2
  have hsize := h.top.fut.1
  by_cases hp : (r.fut 0).state = .pending
  · -- the caller's outcome resolves and the caller is woken
    have hqueue : (({ r with queue := rest } : Run).settle 0 (.resolved e)).queue =
        rest ++ [.step 1 false] := by
      rw [settle_resolved ({ r with queue := rest } : Run) hp e]
      simp [hws]
    have hfut : ∀ f, (({ r with queue := rest } : Run).settle 0 (.resolved e)).fut f =
        if f = 0 then { r.fut 0 with state := .resolved e } else r.fut f := fun f => by
      rw [settle_resolved ({ r with queue := rest } : Run) hp e,
        fut_modify ({ r with queue := rest } : Run) (F := fun x => { x with state := .resolved e })
          (f := 0) rfl]
      by_cases hf : f = 0
      · subst hf
        simp [hsize]
      · simp [Ne.symm hf, hf]
    have hfsize : (({ r with queue := rest } : Run).settle 0 (.resolved e)).futs.size =
        r.futs.size := by
      rw [settle_resolved ({ r with queue := rest } : Run) hp e]
      exact Array.size_modify
    have htask : ∀ j, (({ r with queue := rest } : Run).settle 0 (.resolved e)).task j = r.task j :=
      fun j => task_settle _ _
    have hworld : (({ r with queue := rest } : Run).settle 0 (.resolved e)).world = r.world :=
      settle_world _ _
    have hgroups : (({ r with queue := rest } : Run).settle 0 (.resolved e)).groups = r.groups :=
      settle_groups _ _
    have hstores : (({ r with queue := rest } : Run).settle 0 (.resolved e)).stores = r.stores :=
      settle_stores _ _
    have hsize' : (({ r with queue := rest } : Run).settle 0 (.resolved e)).tasks.size =
        r.tasks.size := by rw [settle_tasks]
    generalize ({ r with queue := rest } : Run).settle 0 (.resolved e) = r'
      at hqueue hfut hfsize htask hworld hgroups hstores hsize' ⊢
    have hnew : ∀ x ∈ r'.queue, x ∈ r.queue ∨ x = .step 1 false := fun x hx => by
      rw [hqueue] at hx
      rcases List.mem_append.1 hx with hx | hx
      · exact .inl (hpop x hx)
      · exact .inr (List.mem_singleton.1 hx)
    have hkeep : ∀ f, f ≠ 0 → r'.fut f = r.fut f := fun f hf => by rw [hfut, if_neg hf]
    have htop : r'.LoadTop S := h.top.of_resolved htask hsize'
      ⟨hfsize ▸ hsize, by rw [hfut, if_pos rfl]; exact hws⟩ ⟨e, by rw [hfut, if_pos rfl], he⟩ hnew
      (fun x hx _ => by
        by_cases hx' : x = .relay 2 0
        · exact .inl hx'
        · exact .inr (by rw [hqueue]; exact List.mem_append_left _ (hold x hx hx')))
      (fun _ => by rw [hqueue]; simp) (by rw [hworld])
    refine h.above htop hsize' (fun j _ => htask j) (fun j => by rw [htask]) (fun j => by rw [htask])
      hgroups hstores (fun f hp' => ?_) (fun f _ hw => ?_) (fun x hx hu => ?_) (fun x hx hu => ?_)
      (by rw [hworld]) (by rw [hworld]) (by rw [hworld])
    · -- the caller's outcome is no longer pending
      by_cases hf : f = 0
      · subst hf
        rw [hfut, if_pos rfl] at hp'
        cases hp'
      · exact hkeep f hf
    · by_cases hf : f = 0
      · subst hf
        exact absurd hws hw
      · exact hkeep f hf
    · rcases hnew x hx with hx' | rfl
      · exact hx'
      · simp [Event.under] at hu
    · refine .inl ?_
      rw [hqueue]
      exact List.mem_append_left _ (hold x hx fun hx' => by rw [hx'] at hu; simp [Event.under] at hu)
  · -- the outcome was resolved already: nothing happens
    rw [settle_of_not_pending ({ r with queue := rest } : Run)
      (Bool.eq_false_iff.2 fun hp' => hp ((isPending_iff _).1 hp'))]
    have hres : ∃ e', (r.fut 0).state = .resolved e' ∧ (r.task 2).ending = some e' := by
      rcases h.top.futState with ⟨hp', -⟩ | hres
      · exact absurd hp' hp
      · exact hres
    have htop : ({ r with queue := rest } : Run).LoadTop S := h.top.of_resolved (fun _ => rfl) rfl
      h.top.fut hres (fun x hx => .inl (hpop x hx))
      (fun x hx _ => by
        by_cases hx' : x = .relay 2 0
        · exact .inl hx'
        · exact .inr (hold x hx hx'))
      (fun hend => hold _ ((h.top.callerWaits hend).resolve_left hp) (by simp)) rfl
    exact h.above htop rfl (fun _ _ => rfl) (fun _ => rfl) (fun _ => rfl) rfl rfl (fun _ _ => rfl)
      (fun _ _ _ => rfl) (fun x hx _ => hpop x hx)
      (fun x hx hu => .inl (hold x hx fun hx' => by rw [hx'] at hu; simp [Event.under] at hu))
      rfl rfl rfl

/-- **Forgetting the load keeps `LoadTop`.**  The one forgetting queued is that of the
loader's end: it erases the loader's record of the load in flight, or finds it erased
already. -/
theorem LoadTop.forget (h : r.LoadTop S) {n : String} {l : Nat} {rest : List Event}
    (hq : r.queue = .forget n l :: rest) :
    (({ r with queue := rest } : Run).handle (.forget n l)).LoadTop S := by
  obtain ⟨rfl, rfl⟩ := h.forgets n l (by rw [hq]; exact List.mem_cons_self)
  have hpop : ∀ x ∈ rest, x ∈ r.queue := fun x hx => by
    rw [hq]
    exact .tail _ hx
  have hold : ∀ x ∈ r.queue, x ≠ .forget S.name 2 → x ∈ rest := fun x hx hne => by
    rw [hq] at hx
    exact (List.mem_cons.1 hx).resolve_left hne
  -- the turn changes the record of loads in flight alone, and leaves the loader's erased
  have herase : (({ r with queue := rest } : Run).handle (.forget S.name 2)).world.cache.inflight =
      eraseKey S.cache.inflight S.name := by
    simp only [handle]
    rcases h.inflight with ⟨heq, -⟩ | herase
    · rw [if_pos (by rw [heq]; exact S.loaderInFlight)]
      simp [heq]
    · rw [if_neg (by rw [herase, lookup_eraseKey]; simp)]
      exact herase
  have hsame : ∀ (P : Run → Prop), (∀ r' : Run, r'.tasks = r.tasks → r'.futs = r.futs →
      r'.queue = rest → P r') →
      P (({ r with queue := rest } : Run).handle (.forget S.name 2)) := fun P hP => by
    simp only [handle]
    split <;> exact hP _ rfl rfl rfl
  refine hsame (fun r' => r'.world.cache.inflight = eraseKey S.cache.inflight S.name →
    r'.LoadTop S) (fun r' ht hf hqr herase' => ?_) herase
  have htask : ∀ j, r'.task j = r.task j := task_eq_of_tasks ht
  have hfut : r'.fut 0 = r.fut 0 := by simp only [Run.fut, hf]
  refine
    { size := ht ▸ h.size
      client := by rw [htask]; exact h.client
      clientPhase := by rw [htask]; exact h.clientPhase
      clientWaits := fun he => ?_
      clientDone := by rw [htask]; exact h.clientDone
      clientStep := fun th hx => by rw [htask]; exact h.clientStep th (hpop _ (hqr ▸ hx))
      caller := by rw [htask]; exact h.caller
      fut := by rw [hfut, hf]; exact h.fut
      futState := ?_
      callerWaits := fun he => ?_
      callerDone := fun e he => by rw [htask] at he ⊢; exact h.callerDone e he
      callerStep := fun th hx => by rw [hfut]; exact h.callerStep th (hpop _ (hqr ▸ hx))
      relay := fun l f hx => by rw [htask]; exact h.relay l f (hpop _ (hqr ▸ hx))
      loader := by rw [htask]; exact h.loader
      loaderEnding := by rw [htask]; exact h.loaderEnding
      forgets := fun n l hx => h.forgets n l (hpop _ (hqr ▸ hx))
      inflight := .inr herase' }
  · rw [htask] at he
    rw [htask, hqr]
    exact (h.clientWaits he).imp_right fun hx => hold _ hx (by simp)
  · rw [hfut, htask, hqr]
    exact h.futState.imp_left fun hi => ⟨hi.1, hi.2.imp_right fun hx => hold _ hx (by simp)⟩
  · rw [htask] at he
    rw [hfut, hqr]
    exact (h.callerWaits he).imp_right fun hx => hold _ hx (by simp)

/-- **Forgetting the load keeps the invariant.**  Only the cache's record of the load in
flight changes. -/
theorem LoadInv.forget (h : r.LoadInv S) {n : String} {l : Nat} {rest : List Event}
    (hq : r.queue = .forget n l :: rest) :
    (({ r with queue := rest } : Run).handle (.forget n l)).LoadInv S := by
  have hpop : ∀ x ∈ rest, x ∈ r.queue := fun x hx => by
    rw [hq]
    exact .tail _ hx
  have hold : ∀ x ∈ r.queue, x ≠ .forget n l → x ∈ rest := fun x hx hne => by
    rw [hq] at hx
    exact (List.mem_cons.1 hx).resolve_left hne
  have htop := h.top.forget hq
  -- nothing under the caller changes, nor the snapshots, generations and sources
  have hsame : ∀ (P : Run → Prop), (∀ r' : Run, r'.tasks = r.tasks → r'.futs = r.futs →
      r'.groups = r.groups → r'.stores = r.stores → r'.queue = rest →
      r'.world.cache.snapshots = r.world.cache.snapshots →
      r'.world.cache.generations = r.world.cache.generations →
      r'.world.sources = r.world.sources → P r') →
      P (({ r with queue := rest } : Run).handle (.forget n l)) := fun P hP => by
    simp only [handle]
    split <;> exact hP _ rfl rfl rfl rfl rfl rfl rfl rfl
  revert htop
  refine hsame (fun r' => r'.LoadTop S → r'.LoadInv S)
    (fun r' ht hf hg hs hqr hsnap hgen hsrc htop => ?_)
  have htask : ∀ j, r'.task j = r.task j := task_eq_of_tasks ht
  have hfut : ∀ f, r'.fut f = r.fut f := fun f => by simp only [fut, hf]
  exact h.above htop (by rw [ht]) (fun j _ => htask j) (fun j => by rw [htask])
    (fun j => by rw [htask]) hg hs (fun f _ => hfut f) (fun f _ _ => hfut f)
    (fun x hx _ => hpop x (hqr ▸ hx))
    (fun x hx hu => .inl (hqr ▸ hold x hx fun hx' => by rw [hx'] at hu; simp [Event.under] at hu))
    hsnap hgen hsrc

end Run

end SqlAssist.Schema
