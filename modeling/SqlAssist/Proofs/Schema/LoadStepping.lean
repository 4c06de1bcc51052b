import SqlAssist.Proofs.Schema.LoadMoves

/-!
# The whole invariant through a step under the caller

`Run.Moving` and `Run.Settled` follow the tree of tasks through the updates of a step
(`SqlAssist.Proofs.Schema.LoadMoves`).  This file carries the other parts of `LoadInv`
along with it: the client, the caller and the loader (`LoadTop`), the loader's store
(`LoadData`), the cache and the sources (`LoadCache`), and the clean run (`LoadClean`).

`Run.Stepping S r j` is a run in the middle of task `j`'s step: the task is moving, and
every other part of the invariant holds.  A step starts stepping (`LoadInv.stepping`),
goes through updates that keep it stepping (asking a source, logging, filing what it
fetched, starting a group, handling a cancel), and ends in one of a few ways, each of
which gives the whole invariant back: the task yields, waits on its group again, or
ends.

## Main statements

* `LoadInv.stepping`: a step of an unended task under the caller starts stepping.
* `Stepping.world`: asking a source or logging keeps the step going.
* `Stepping.yield`, `Stepping.wait`: a task that yields or waits again ends the step.
* `Stepping.finish`: a member of a group ends; what it ends with is its group's to note.
* `Stepping.loadFailed`, `Moving.endLoader`: the loader ends, and the caller's outcome
  is relayed.
* `LoadData.fetched_eq`: once every database is filed, the loader's store assembles to
  the snapshot the source's answers make.
-/

namespace SqlAssist.Schema

/-- A task that checks a group is the loader or a database task. -/
theorem LoadSetting.Shape.grouped_role {S : LoadSetting} {j : Nat} {t : Task} {g : Nat}
    (h : S.Shape j t) (hph : t.phase = .grouped g) :
    (t.role = .loader S.name S.src S.gen ∧ j = 2) ∨ ∃ d, t.role = .database 2 d ∧ 3 ≤ j := by
  unfold LoadSetting.Shape at h
  split at h
  · rename_i n s g' heq
    obtain ⟨rfl, rfl, rfl, hj, -⟩ := h
    exact .inl ⟨heq, hj⟩
  · rename_i l d heq
    obtain ⟨rfl, hj, -⟩ := h
    exact .inr ⟨d, heq, hj⟩
  · rcases h.2.2 with hp | hp <;> rw [hph] at hp <;> cases hp
  · exact h.elim

/-- A task keeps its shape in another's phase if it has the other's role. -/
theorem LoadSetting.Shape.of_role {S : LoadSetting} {j : Nat} {t t' : Task} (h : S.Shape j t)
    (hrole : t'.role = t.role) : S.Shape j { t' with phase := t.phase } :=
  cast (@LoadSetting.Shape.congr S j t { t' with phase := t.phase } hrole rfl).symm h

namespace Run

variable {S : LoadSetting} {r r' : Run} {j : Nat}

/-- Task `j` is in the middle of its step, and every part of the invariant holds but the
task's own way forward. -/
structure Stepping (S : LoadSetting) (r : Run) (j : Nat) : Prop where
  moving : r.Moving S j
  top : r.LoadTop S
  data : TextNames S.source → r.LoadData S
  cache : r.LoadCache S
  clean : TextNames S.source → (fetchedSnapshot S.source).isSome → r.LoadClean

/-! ## The parts above the tree -/

/-- `LoadTop` carries over a turn under the caller: one that leaves the client and the
caller alone, keeps the loader's ending and callbacks and the caller's outcome, and only
appends events under the caller to the queue. -/
theorem LoadTop.extend (h : r.LoadTop S) (hsize : r.tasks.size ≤ r'.tasks.size)
    (h0 : r'.task 0 = r.task 0) (h1 : r'.task 1 = r.task 1)
    (h2 : (r'.task 2).ending = (r.task 2).ending)
    (h2cb : (r'.task 2).callbacks = (r.task 2).callbacks)
    (hfut : r'.fut 0 = r.fut 0) (hfsize : r.futs.size ≤ r'.futs.size)
    (hinfl : r'.world.cache.inflight = r.world.cache.inflight) {new : List Event}
    (hq : r'.queue = r.queue ++ new) (hnew : ∀ x ∈ new, x.above = false) : r'.LoadTop S := by
  refine h.frame hsize h0 h1 h2 h2cb hfut hfsize hinfl (fun x hx hab => ?_)
    fun x hx _ => .inl (by rw [hq]; exact List.mem_append_left _ hx)
  rw [hq] at hx
  rcases List.mem_append.1 hx with hx | hx
  · exact hx
  · rw [hnew x hx] at hab
    cases hab

/-- **The loader's end keeps `LoadTop`.**  Ending the loader other than cancelled queues
the forgetting of its name and the relay of its ending to the caller's outcome, which is
still pending. -/
theorem LoadTop.finish_loader (h : r.LoadTop S) (hend : (r.task 2).ending = none) {e : Ending}
    (he : e ≠ .cancelled) : (r.finish 2 e).LoadTop S := by
  have hlt : 2 < r.tasks.size := h.size
  have htask : ∀ k, k ≠ 2 → (r.finish 2 e).task k = r.task k := fun k hk =>
    task_finish_ne r e (Ne.symm hk)
  have h2 : (r.finish 2 e).task 2 = { r.task 2 with ending := some e, waitsOn := none } :=
    task_finish_self r e hlt
  have hq : (r.finish 2 e).queue = r.queue ++ [.forget S.name 2, .relay 2 0] := by
    rw [finish_queue, h.loader]
    rfl
  -- the events the loader's end queues are neither the client's nor the caller's steps
  have hold : ∀ x ∈ (r.finish 2 e).queue, x.above = true →
      x ∈ r.queue ∨ x = .relay 2 0 ∨ x = .forget S.name 2 :=
    fun x hx _ => by
      rw [hq] at hx
      rcases List.mem_append.1 hx with hx | hx
      · exact .inl hx
      · simp only [List.mem_cons, List.not_mem_nil, or_false] at hx
        rcases hx with rfl | rfl
        · exact .inr (.inr rfl)
        · exact .inr (.inl rfl)
  have hext : ∀ x ∈ r.queue, x ∈ (r.finish 2 e).queue := fun x hx => by
    rw [hq]
    exact List.mem_append_left _ hx
  have hfut : (r.finish 2 e).fut 0 = r.fut 0 := by simp only [Run.fut, finish_futs]
  -- the caller has not ended, as the loader it waits on has not
  have h1end : (r.task 1).ending = none := by
    cases h1 : (r.task 1).ending with
    | none => rfl
    | some e' => rw [h.callerDone e' h1] at hend; cases hend
  refine
    { size := by simpa using h.size
      client := by rw [htask 0 (by omega)]; exact h.client
      clientPhase := by rw [htask 0 (by omega)]; exact h.clientPhase
      clientWaits := fun hend0 => ?_
      clientDone := by rw [htask 0 (by omega)]; exact h.clientDone
      clientStep := fun th hx => ?_
      caller := by rw [htask 1 (by omega)]; exact h.caller
      fut := by rw [hfut, finish_futs]; exact h.fut
      futState := ?_
      callerWaits := fun _ => ?_
      callerDone := fun e' he' => ?_
      callerStep := fun th hx => ?_
      relay := fun l f hx => ?_
      loader := by rw [h2]; exact h.loader
      loaderEnding := by rw [h2]; simpa using he
      forgets := fun n l hx => ?_
      inflight := ?_ }
  · rw [htask 0 (by omega)] at hend0
    rw [htask 1 (by omega)]
    rcases h.clientWaits hend0 with h1' | hx
    · exact .inl h1'
    · exact .inr (hext _ hx)
  · rw [htask 1 (by omega)]
    rcases hold _ hx rfl with hx | hx | hx
    · exact h.clientStep th hx
    · cases hx
    · cases hx
  · -- the outcome stays pending, and the relay is now queued
    rw [hfut]
    rcases h.futState with ⟨hp, -⟩ | ⟨e', -, he'⟩
    · exact .inl ⟨hp, .inr (by rw [hq]; simp)⟩
    · rw [hend] at he'
      cases he'
  · rw [hfut]
    rcases h.callerWaits h1end with hp | hx
    · exact .inl hp
    · exact .inr (hext _ hx)
  · rw [htask 1 (by omega), h1end] at he'
    cases he'
  · rw [hfut]
    rcases hold _ hx rfl with hx | hx | hx
    · exact h.callerStep th hx
    · cases hx
    · cases hx
  · rcases hold _ hx rfl with hx | hx | hx
    · obtain ⟨-, -, hended⟩ := h.relay l f hx
      rw [hend] at hended
      cases hended
    · obtain ⟨rfl, rfl⟩ := Event.relay.inj hx
      rw [h2]
      exact ⟨rfl, rfl, rfl⟩
    · cases hx
  · rcases hold _ hx rfl with hx | hx | hx
    · exact h.forgets n l hx
    · cases hx
    · exact Event.forget.inj hx
  · -- the record of the load in flight stays until the forgetting now queued
    rw [finish_world, h2]
    rcases h.inflight with ⟨heq, -⟩ | herase
    · exact .inl ⟨heq, .inr (by rw [hq]; simp)⟩
    · exact .inr herase

/-! ## Starting a step -/

/-- Clearing a task's flags keeps where every task stands. -/
theorem calmer_setTask_clear (r : Run) (j k : Nat) :
    ((r.setTask j fun t => { t with mustCancel := false, waitsOn := none }).task k).Calmer
      (r.task k) := by
  rw [task_setTask]
  split
  · exact .clear _
  · exact .refl _

/-- **A step sets its task stepping.**  Dropping the step from the queue and clearing the
task's flags keeps every part of the invariant; only the task itself owes a way forward. -/
theorem LoadInv.stepping (h : r.LoadInv S) {th : Bool} {rest : List Event}
    (hq : r.queue = .step j th :: rest) (hj : 2 ≤ j) (hlt : j < r.tasks.size)
    (hend : (r.task j).ending = none) :
    (({ r with queue := rest } : Run).setTask j
      fun t => { t with mustCancel := false, waitsOn := none }).Stepping S j := by
  have hc : ∀ k, ((({ r with queue := rest } : Run).setTask j
      fun t => { t with mustCancel := false, waitsOn := none }).task k).Calmer (r.task k) :=
    fun k => calmer_setTask_clear _ j k
  have hmc : ∀ k, ((({ r with queue := rest } : Run).setTask j
      fun t => { t with mustCancel := false, waitsOn := none }).task k).mustCancel = true →
      (r.task k).mustCancel = true := fun k => by
    rw [task_setTask]
    split
    · simp
    · exact id
  have hpop : ∀ x ∈ rest, x ∈ r.queue := fun x hx => by
    rw [hq]
    exact .tail _ hx
  have htop : ({ r with queue := rest } : Run).LoadTop S :=
    h.top.pop hq fun hab => by simp [Event.above] at hab; omega
  refine ⟨h.moving hq hj hlt hend, ?_, fun hs => ?_, ?_, fun hs hf => ?_⟩
  · exact htop.frame (by simp) (task_setTask_ne _ _ (by omega)) (task_setTask_ne _ _ (by omega))
      (hc 2).ending (hc 2).callbacks rfl le_rfl rfl (fun x hx _ => hx) fun x hx _ => .inl hx
  · exact (h.data hs).frame rfl (fun k => (hc k).role) (fun k => (hc k).callbacks)
      (fun k g _ hph => (hc k).phase ▸ hph) (fun k _ he => .inl ((hc k).ending ▸ he)) rfl
      fun _ => rfl
  · exact h.cache.frame rfl rfl h.cache.sources (hc 2).ending
  · exact (h.clean hs hf).frame (fun k e _ he => .inl ((hc k).ending ▸ he)) (fun k _ => hmc k)
      (fun _ => ⟨rfl, rfl, rfl⟩) fun k _ hx => hpop _ hx

/-- A step keeps going through updates of the world alone: logging, and asking sources
that answer as before. -/
theorem Stepping.world (h : r.Stepping S j) (ht : r'.tasks = r.tasks) (hf : r'.futs = r.futs)
    (hg : r'.groups = r.groups) (hs : r'.stores = r.stores) (hq : r'.queue = r.queue)
    (hc : r'.world.cache = r.world.cache) (hsrc : S.SourcesFrom r'.world.sources) :
    r'.Stepping S j := by
  have htask : ∀ k, r'.task k = r.task k := task_eq_of_tasks ht
  have hgroup := group_eq_of_groups hg
  refine ⟨h.moving.congr ht hf hg hq, ?_, fun hs' => ?_, ?_, fun hs' hf' => ?_⟩
  · exact h.top.frame (by rw [ht]) (htask 0) (htask 1) (by rw [htask]) (by rw [htask])
      (by simp only [fut, hf]) (by rw [hf]) (by rw [hc])
      (fun x hx _ => by rwa [hq] at hx)
      fun x hx _ => .inl (by rwa [hq])
  · exact (h.data hs').frame (by simp only [store, hs]) (fun k => by rw [htask])
      (fun k => by rw [htask]) (fun k g _ => by rw [htask]; exact id)
      (fun k _ he => .inl (by rwa [htask] at he)) (by rw [hg]) fun g => by rw [hgroup]
  · exact h.cache.frame (by rw [hc]) (by rw [hc]) hsrc (by rw [htask])
  · exact (h.clean hs' hf').frame (fun k e _ he => .inl (by rwa [htask] at he))
      (fun k _ => by rw [htask]; exact id) (fun g => by rw [hgroup]; exact ⟨rfl, rfl, rfl⟩)
      fun k _ hx => by rwa [hq] at hx

/-- Logging keeps a step going. -/
theorem Stepping.note (h : r.Stepping S j) (level : Log.Level) (msg : String) :
    (r.note level msg).Stepping S j :=
  h.world rfl rfl rfl rfl rfl rfl h.cache.sources

/-! ## Yielding -/

/-- **A task that yields ends its step with the invariant.**  The task takes its new
phase, which is not a group's check, and its next step is queued. -/
theorem Stepping.yield (h : r.Stepping S j) (hstart : (r.task j).phase = .start) {p : Phase}
    (hshape : S.Shape j { r.task j with phase := p }) (hp : ∀ g, p ≠ .grouped g) :
    ((r.setTask j fun t => { t with phase := p }).enqueue (.step j false)).LoadInv S := by
  have hlt := h.moving.lt
  have h2 := h.moving.lower
  have hsettled := h.moving.yield hstart hshape hp
  -- only the phase of the task changes, and its step is queued
  have hfield : ∀ k, ((((r.setTask j fun t => { t with phase := p }).enqueue
      (.step j false)).task k).role = (r.task k).role ∧
      (((r.setTask j fun t => { t with phase := p }).enqueue (.step j false)).task k).ending =
        (r.task k).ending ∧
      (((r.setTask j fun t => { t with phase := p }).enqueue (.step j false)).task k).callbacks =
        (r.task k).callbacks ∧
      (((r.setTask j fun t => { t with phase := p }).enqueue (.step j false)).task k).mustCancel =
        (r.task k).mustCancel) := fun k => by
    rw [task_enqueue, task_setTask]
    split <;> exact ⟨rfl, rfl, rfl, rfl⟩
  have hphase : ∀ k g, (((r.setTask j fun t => { t with phase := p }).enqueue
      (.step j false)).task k).phase = .grouped g → (r.task k).phase = .grouped g := fun k g => by
    rw [task_enqueue, task_setTask]
    split
    · rename_i hk
      exact fun hph => absurd hph (hp g)
    · exact id
  have hq : ((r.setTask j fun t => { t with phase := p }).enqueue (.step j false)).queue =
      r.queue ++ [.step j false] := rfl
  refine ⟨?_, hsettled.tree, hsettled.progress, fun hs => ?_, ?_, fun hs hf => ?_⟩
  · refine h.top.extend (by simp) (by simp [show j ≠ 0 by omega])
      (by simp [show j ≠ 1 by omega]) (hfield 2).2.1 (hfield 2).2.2.1 rfl le_rfl rfl hq ?_
    simp only [List.mem_singleton, forall_eq, Event.above, decide_eq_false_iff_not]
    omega
  · exact (h.data hs).frame rfl (fun k => (hfield k).1) (fun k => (hfield k).2.2.1)
      (fun k g _ => hphase k g) (fun k _ he => .inl ((hfield k).2.1 ▸ he)) rfl fun _ => rfl
  · exact h.cache.frame rfl rfl h.cache.sources (hfield 2).2.1
  · refine (h.clean hs hf).frame (fun k e _ he => .inl ((hfield k).2.1 ▸ he))
      (fun k _ hm => (hfield k).2.2.2 ▸ hm) (fun _ => ⟨rfl, rfl, rfl⟩) fun k _ hx => ?_
    rw [hq] at hx
    rcases List.mem_append.1 hx with hx | hx
    · exact hx
    · simp at hx

/-! ## Ending -/

/-- Ending a task changes its ending and its wait alone. -/
theorem task_finish_fields (r : Run) (j k : Nat) (e : Ending) :
    ((r.finish j e).task k).role = (r.task k).role ∧
      ((r.finish j e).task k).phase = (r.task k).phase ∧
      ((r.finish j e).task k).callbacks = (r.task k).callbacks ∧
      ((r.finish j e).task k).mustCancel = (r.task k).mustCancel := by
  rw [task_finish]
  split <;> exact ⟨rfl, rfl, rfl, rfl⟩

theorem ending_finish_of_ne (r : Run) {j k : Nat} (e : Ending) (hk : j ≠ k) :
    ((r.finish j e).task k).ending = (r.task k).ending := by
  rw [task_finish_ne r e hk]

theorem role_groupEnd (r : Run) (j k g : Nat) : ((r.groupEnd j g).task k).role = (r.task k).role := by
  obtain ⟨r', e, hts, heq⟩ := r.groupEnd_finish (i := j) (g := g)
  rw [heq, (task_finish_fields r' j k e).1]
  simp only [Run.task, hts]

/-- **A member that ends ends its step with the invariant.**  A member of a group ends
cancelled only if its group aborts, fails only with a failure that names a first one,
ends well only once it has filed what it fetched, and in a clean run ends well; its
group is queued to note its end. -/
theorem Stepping.finish (h : r.Stepping S j) (h3 : 3 ≤ j) {e : Ending}
    (hcancel : ∀ g, r.Member g j → e = .cancelled → (r.group g).aborting)
    (hfail : ∀ f, e = .failed f → f.first ≠ none)
    (hfiled : TextNames S.source → e = .ok → r.Filed S j)
    (hclean : TextNames S.source → (fetchedSnapshot S.source).isSome → e = .ok) :
    (r.finish j e).LoadInv S := by
  have hlt := h.moving.lt
  obtain ⟨g, -, hm⟩ := h.moving.tree.sub j h3 hlt
  have hsettled := h.moving.finish (.inl ⟨g, hm⟩) hcancel hfail
  have hf : ∀ k, _ := fun k => task_finish_fields r j k e
  have hq : (r.finish j e).queue = r.queue ++ [.childDone g j] := by
    rw [finish_queue, hm]
    rfl
  have hgrp : ∀ g, (r.finish j e).group g = r.group g := fun g => by
    simp only [Run.group, finish_groups]
  -- the ending that changes is the member's
  have hend : ∀ k e', ((r.finish j e).task k).ending = some e' →
      (r.task k).ending = some e' ∨ k = j ∧ e' = e := fun k e' he' => by
      by_cases hk : j = k
      · subst hk
        rw [task_finish_self r e hlt] at he'
        exact .inr ⟨rfl, (Option.some.inj he').symm⟩
      · rw [ending_finish_of_ne r e hk] at he'
        exact .inl he'
  refine ⟨?_, hsettled.tree, hsettled.progress, fun hs => ?_, ?_, fun hs hf' => ?_⟩
  · exact h.top.extend (by simp) (task_finish_ne r e (by omega))
      (task_finish_ne r e (by omega)) (ending_finish_of_ne r e (by omega))
      (hf 2).2.2.1 (by simp only [Run.fut, finish_futs]) (by simp) (by rw [finish_world])
      hq (by simp [Event.above])
  · refine (h.data hs).frame (by simp only [Run.store, finish_stores]) (fun k => (hf k).1)
      (fun k => (hf k).2.2.1) (fun k g _ hph => (hf k).2.1 ▸ hph) (fun k _ he => ?_) (by simp)
      fun g => by rw [hgrp]
    rcases hend k _ he with he' | ⟨rfl, he'⟩
    · exact .inl he'
    · exact .inr ((Filed.congr (hf k).1 (by simp only [Run.store, finish_stores])).2
        (hfiled hs he'.symm))
  · exact h.cache.frame (by simp) (by simp) (by rw [finish_world]; exact h.cache.sources)
      (ending_finish_of_ne r e (by omega))
  · refine (h.clean hs hf').frame (fun k e' _ he => ?_) (fun k _ hm' => (hf k).2.2.2 ▸ hm')
      (fun g => by rw [hgrp]; exact ⟨rfl, rfl, rfl⟩) fun k _ hx => ?_
    · rcases hend k e' he with he' | ⟨-, rfl⟩
      · exact .inl he'
      · exact .inr (hclean hs hf')
    · rw [hq] at hx
      rcases List.mem_append.1 hx with hx | hx
      · exact hx
      · simp at hx

/-! ## The loader's end -/

/-- The loader is the task the caller's load started. -/
theorem LoadTree.loader_role (h : r.LoadTree S) (hlt : 2 < r.tasks.size) :
    (r.task 2).role = .loader S.name S.src S.gen := by
  have hs := h.shape 2 le_rfl hlt
  unfold LoadSetting.Shape at hs
  split at hs
  · rename_i n s g heq
    obtain ⟨rfl, rfl, rfl, -⟩ := hs
    exact heq
  · exact absurd hs.2.1 (by omega)
  · exact absurd hs.2.1 (by omega)
  · exact hs.elim

/-- The loader ending other than well leaves the cache as the load found it. -/
theorem LoadCache.finish_unpublished (h : r.LoadCache S) (hend : (r.task 2).ending = none)
    (hlt : 2 < r.tasks.size) {e : Ending} (he : e ≠ .ok) : (r.finish 2 e).LoadCache S where
  others n hn := by
    rw [finish_world]
    exact h.others n hn
  unpublished _ := by
    rw [finish_world]
    exact h.unpublished (by rw [hend]; simp)
  published _ hok := by
    rw [task_finish_self r e hlt] at hok
    exact absurd (Option.some.inj hok) he
  publishedSome hok := by
    rw [task_finish_self r e hlt] at hok
    exact absurd (Option.some.inj hok) he
  generations := by
    rw [finish_world]
    exact h.generations
  sources := by
    rw [finish_world]
    exact h.sources

/-- **The loader's end ends the step with the invariant,** given what the cache holds
once it has ended.  The loader ends other than cancelled, fails only with a failure that
names a first one, and in a clean run ends well. -/
theorem Moving.endLoader (h : r.Moving S 2) (htop : r.LoadTop S)
    (hdata : TextNames S.source → r.LoadData S)
    (hclean : TextNames S.source → (fetchedSnapshot S.source).isSome → r.LoadClean)
    {e : Ending} (hne : e ≠ .cancelled) (hfail : ∀ f, e = .failed f → f.first ≠ none)
    (hok : TextNames S.source → (fetchedSnapshot S.source).isSome → e = .ok)
    (hcache : (r.finish 2 e).LoadCache S) : (r.finish 2 e).LoadInv S := by
  have hlt := h.lt
  have hrole := h.tree.loader_role hlt
  -- the loader's callbacks queue nothing under the caller
  have hsettled := h.finish (.inr (by rw [htop.loader]; simp [Callback.event, Event.under]))
    (fun _ _ hc => absurd hc hne) hfail
  have hf : ∀ k, _ := fun k => task_finish_fields r 2 k e
  have hgrp : ∀ g, (r.finish 2 e).group g = r.group g := fun g => by
    simp only [Run.group, finish_groups]
  refine ⟨htop.finish_loader h.unended hne, hsettled.tree, hsettled.progress, fun hs => ?_,
    hcache, fun hs hfs => ?_⟩
  · refine (hdata hs).frame (by simp only [Run.store, finish_stores]) (fun k => (hf k).1)
      (fun k => (hf k).2.2.1) (fun k g _ hph => (hf k).2.1 ▸ hph) (fun k _ he => ?_) (by simp)
      fun g => by rw [hgrp]
    by_cases hk : k = 2
    · -- the loader files nothing of its own
      subst hk
      refine .inr ?_
      unfold Filed
      rw [(hf 2).1, hrole]
      trivial
    · exact .inl (by rwa [ending_finish_of_ne r e (Ne.symm hk)] at he)
  · refine (hclean hs hfs).frame (fun k e' _ he => ?_) (fun k _ hm => (hf k).2.2.2 ▸ hm)
      (fun g => by rw [hgrp]; exact ⟨rfl, rfl, rfl⟩) fun k _ hx => ?_
    · by_cases hk : k = 2
      · subst hk
        rw [task_finish_self r e hlt] at he
        exact .inr ((Option.some.inj he).symm ▸ hok hs hfs)
      · exact .inl (by rwa [ending_finish_of_ne r e (Ne.symm hk)] at he)
    · rw [finish_queue, htop.loader] at hx
      rcases List.mem_append.1 hx with hx | hx
      · exact hx
      · simp [Callback.event] at hx

/-- **A loader that fails ends the step with the invariant**, the cache as the load found
it. -/
theorem Stepping.endFailed (h : r.Stepping S 2) {f : Failure} (hf : f.first ≠ none)
    (hclean : TextNames S.source → (fetchedSnapshot S.source).isSome → False) :
    (r.finish 2 (.failed f)).LoadInv S :=
  h.moving.endLoader h.top h.data h.clean (by simp) (fun f' hf' => by cases hf'; exact hf)
    (fun hs hfs => (hclean hs hfs).elim)
    (h.cache.finish_unpublished h.moving.unended h.moving.lt (by simp))

theorem Stepping.loadFailed (h : r.Stepping S 2) (f : LoadFailure)
    (hclean : TextNames S.source → (fetchedSnapshot S.source).isSome → False) :
    (r.loadFailed 2 f).LoadInv S := by
  unfold Run.loadFailed
  cases f with
  | stage _ => exact (h.note _ _).endFailed (by simp [Failure.first]) hclean
  | misuse _ => exact h.endFailed (by simp [Failure.first]) hclean

/-- **A loader that publishes ends the step with the invariant.**  Its generation is the
cache's, as nothing clears its name during the load, so it publishes the snapshot its
store assembles: the snapshot the source's answers make, for a source that names things
by texts. -/
theorem Stepping.publish (h : r.Stepping S 2)
    (hsnap : TextNames S.source → fetchedSnapshot S.source =
      some (Snapshot.assemble (r.store 2).databases (r.store 2).tables (r.store 2).columns)) :
    (r.publish 2).LoadInv S := by
  have hrole := h.moving.tree.loader_role h.moving.lt
  have hgen : r.world.cache.generation S.name = S.gen := by
    simp only [Cache.generation, h.cache.generations]
    rfl
  generalize hsn : Snapshot.assemble (r.store 2).databases (r.store 2).tables
    (r.store 2).columns = snap at hsnap
  have hpub : r.publish 2 =
      ((r.setCache (·.publish S.name snap)).note .info "Schema loaded").finish 2 .ok := by
    unfold Run.publish
    rw [hrole]
    simp only [hgen, ne_eq, not_true_eq_false, ↓reduceIte, hsn]
  rw [hpub]
  -- publishing changes the cache alone
  have hmoving : ((r.setCache (·.publish S.name snap)).note .info "Schema loaded").Moving S 2 :=
    h.moving.congr rfl rfl rfl rfl
  have hlt := h.moving.lt
  refine hmoving.endLoader ?_ ?_ ?_ (by simp) (fun _ hf => by cases hf) (fun _ _ => rfl) ?_
  · exact h.top.frame le_rfl rfl rfl rfl rfl rfl le_rfl rfl (fun x hx _ => hx) fun x hx _ => .inl hx
  · exact fun hs => (h.data hs).frame rfl (fun _ => rfl) (fun _ => rfl) (fun _ _ _ => id)
      (fun _ _ he => .inl he) rfl fun _ => rfl
  · exact fun hs hfs => (h.clean hs hfs).frame (fun _ _ _ he => .inl he) (fun _ _ => id)
      (fun _ => ⟨rfl, rfl, rfl⟩) fun _ _ => id
  · refine
      { others := fun n hn => ?_
        unpublished := fun hne => ?_
        published := fun hs _ => ?_
        publishedSome := fun _ => ?_
        generations := by rw [finish_world]; exact h.cache.generations
        sources := by rw [finish_world]; exact h.cache.sources }
    · rw [finish_world]
      simp only [note_cache, setCache_cache, Cache.snapshot?, Cache.publish, lookup_setEntry,
        if_neg hn]
      exact h.cache.others n hn
    · rw [task_finish_self _ _ (by simpa using hlt)] at hne
      exact absurd rfl hne
    · rw [finish_world]
      simp only [note_cache, setCache_cache, Cache.snapshot?, Cache.publish, lookup_setEntry,
        hsnap hs]
      exact ⟨rfl, rfl⟩
    · rw [finish_world]
      simp only [note_cache, setCache_cache, Cache.snapshot?, Cache.publish, lookup_setEntry]
      simp

/-! ## The snapshot a complete store assembles -/

/-- **A complete store assembles to the fetched snapshot.**  For a source that names
things by texts, once every database of the source's answer has its tables filed, and
every table of each its columns, the snapshot assembled from the store is the one the
source's answers make. -/
theorem LoadData.fetched_eq (h : r.LoadData S) (hs : TextNames S.source) {dbs : List Value}
    (hdbs : namesAnswer S.source none = .ok dbs)
    (hfiled : ∀ d ∈ dbs, (∃ e ∈ (r.store 2).tables, e.1 = d) ∧
      ∀ ts, namesAnswer S.source (some d) = .ok ts → ∀ t ∈ ts,
        ∃ e ∈ (r.store 2).columns, e.1 = (d, t)) :
    fetchedSnapshot S.source =
      some (Snapshot.assemble dbs (r.store 2).tables (r.store 2).columns) := by
  have hdt : ∀ d ∈ dbs, d.IsText := hs.databases dbs hdbs
  refine fetchedSnapshot_eq_assemble hs hdbs (fun d hd => ?_) fun d hd ts hts t ht => ?_
  · -- the table map finds the entry filed under `d`, whose key is `d` itself
    obtain ⟨e, he, rfl⟩ := (hfiled _ hd).1
    have hself := (Value.same_iff_of_isText (hdt _ hd) (hdt _ hd)).2 rfl
    obtain ⟨e', he', hsame, hget⟩ := KeyMap.get?_of_mem ⟨e, he, hself⟩
    obtain ⟨htext, hans⟩ := h.tables e' he'
    have heq : e'.1 = e.1 := (Value.same_iff_of_isText htext (hdt _ hd)).1 hsame
    exact ⟨e'.2, heq ▸ hans, hget⟩
  · -- likewise the column map, for the pair of texts `(d, t)`
    obtain ⟨e, he, hk⟩ := (hfiled d hd).2 ts hts t ht
    have hd' := hdt d hd
    have ht' : t.IsText := hs.tables d ts hts t ht
    have hself : SameKey.same e.1 (d, t) = true := by
      rw [hk, SameKey.same_pair, (Value.same_iff_of_isText hd' hd').2 rfl,
        (Value.same_iff_of_isText ht' ht').2 rfl]
      rfl
    obtain ⟨e', he', hsame, hget⟩ := KeyMap.get?_of_mem ⟨e, he, hself⟩
    obtain ⟨h1, h2, hans⟩ := h.columns e' he'
    rw [SameKey.same_pair, Bool.and_eq_true] at hsame
    have hd1 : e'.1.1 = d := (Value.same_iff_of_isText h1 hd').1 hsame.1
    have ht1 : e'.1.2 = t := (Value.same_iff_of_isText h2 ht').1 hsame.2
    exact ⟨e'.2, by rw [← hd1, ← ht1]; exact hans, hget⟩

/-! ## Waiting on the group again -/

/-- **An owner that waits on its group again ends the step with the invariant.** -/
theorem Stepping.wait (h : r.Stepping S j) {g : Nat} (hg : g < r.groups.size)
    (hown : (r.group g).owner = j) (hph : (r.task j).phase = .grouped g)
    (hlive : (r.group g).live ≠ []) :
    (((r.newFut j).1.setGroup g fun x => { x with fut := some r.futs.size }).setTask j
      fun t => { t with phase := .grouped g, waitsOn := some r.futs.size }).LoadInv S := by
  have hsettled := h.moving.wait hg hown hph hlive
  have h2 := h.moving.lower
  have hfut0 : r.futs.size ≠ 0 := by have := h.top.fut.1; omega
  generalize hr' : ((r.newFut j).1.setGroup g fun x => { x with fut := some r.futs.size }).setTask j
    (fun t => { t with phase := .grouped g, waitsOn := some r.futs.size }) = r' at hsettled ⊢
  -- the owner's phase stays its group's check; only its wait and the group's outcome change
  have hf : ∀ k, (r'.task k).role = (r.task k).role ∧ (r'.task k).phase = (r.task k).phase ∧
      (r'.task k).ending = (r.task k).ending ∧ (r'.task k).callbacks = (r.task k).callbacks ∧
      (r'.task k).mustCancel = (r.task k).mustCancel := fun k => by
    rw [← hr', task_setTask]
    simp only [task_setGroup, task_newFut]
    split
    · rename_i hk
      obtain ⟨rfl, -⟩ := hk
      exact ⟨rfl, hph.symm, rfl, rfl, rfl⟩
    · exact ⟨rfl, rfl, rfl, rfl, rfl⟩
  have hgrp : ∀ g', (r'.group g').owner = (r.group g').owner ∧
      (r'.group g').errors = (r.group g').errors ∧ (r'.group g').aborting = (r.group g').aborting ∧
      (r'.group g').outsideCancel = (r.group g').outsideCancel := fun g' => by
    rw [← hr', group_setTask, group_setGroup, group_newFut]
    split <;> exact ⟨rfl, rfl, rfl, rfl⟩
  have hq : r'.queue = r.queue := by rw [← hr']; rfl
  have hworld : r'.world = r.world := by rw [← hr']; rfl
  refine ⟨?_, hsettled.tree, hsettled.progress, fun hs => ?_, ?_, fun hs hfs => ?_⟩
  · refine h.top.frame (by rw [← hr']; simp) ?_ ?_ (hf 2).2.2.1 (hf 2).2.2.2.1 ?_ ?_
      (by rw [hworld]) (fun x hx _ => by rwa [hq] at hx) fun x hx _ => .inl (by rwa [hq])
    · rw [← hr', task_setTask_ne _ _ (by omega)]
      rfl
    · rw [← hr', task_setTask_ne _ _ (by omega)]
      rfl
    · rw [← hr', fut_setTask, fut_setGroup, fut_newFut, if_neg (Ne.symm hfut0)]
    · rw [← hr']
      simp
  · exact (h.data hs).frame (by rw [← hr']; rfl) (fun k => (hf k).1) (fun k => (hf k).2.2.2.1)
      (fun k g _ hph' => (hf k).2.1 ▸ hph') (fun k _ he => .inl ((hf k).2.2.1 ▸ he))
      (by rw [← hr']; simp) fun g' => (hgrp g').1
  · exact h.cache.frame (by rw [hworld]) (by rw [hworld]) (by rw [hworld]; exact h.cache.sources)
      (hf 2).2.2.1
  · exact (h.clean hs hfs).frame (fun k e _ he => .inl ((hf k).2.2.1 ▸ he))
      (fun k _ hm => (hf k).2.2.2.2 ▸ hm) (fun g' => (hgrp g').2) fun k _ hx => by rwa [hq] at hx

/-! ## Starting a group -/

section NewGroup

variable {roles : List Role}

/-- **The store's part through a new group.**  The members of the loader's group are the
databases of the source's answer, which the loader has filed; the members of a database
task's group are the tables of its database, which it has filed. -/
theorem LoadData.newGroup (h : r.LoadData S) (htree : r.LoadTree S) (hng : NewGroup r r' j roles)
    (hlt : j < r.tasks.size)
    (hrole : ((r.task j).role = .loader S.name S.src S.gen ∧ j = 2) ∨
      ∃ d, (r.task j).role = .database 2 d ∧ 3 ≤ j)
    (hdata : (j = 2 → ∃ dbs, namesAnswer S.source none = .ok dbs ∧ (r.store 2).databases = dbs ∧
        roles = dbs.map (.database 2)) ∧
      (∀ d, (r.task j).role = .database 2 d → (∃ e ∈ (r.store 2).tables, e.1 = d) ∧
        ∃ ts, namesAnswer S.source (some d) = .ok ts ∧ roles = ts.map (.columns 2 d))) :
    r'.LoadData S := by
  have hstore : r'.store 2 = r.store 2 := by simp only [store, hng.stores]
  -- a new member plays a role of the group: a database of the loader's answer, or a table
  -- of the database task's
  have hnewRole : ∀ c, r.tasks.size ≤ c → (r'.task c).role = .client ∨
      (j = 2 ∧ ∃ dbs, namesAnswer S.source none = .ok dbs ∧ ∃ d ∈ dbs, (r'.task c).role = .database 2 d) ∨
      (∃ d, (r.task j).role = .database 2 d ∧ ∃ ts, namesAnswer S.source (some d) = .ok ts ∧
        ∃ t ∈ ts, (r'.task c).role = .columns 2 d t) := fun c hc => by
    rcases hng.task_of_le hc with ⟨role, hmem, ht⟩ | ht
    · rw [ht]
      rcases hrole with ⟨-, rfl⟩ | ⟨d, hd, -⟩
      · obtain ⟨dbs, hdbs, -, rfl⟩ := hdata.1 rfl
        obtain ⟨d, hd, rfl⟩ := List.mem_map.1 hmem
        exact .inr (.inl ⟨rfl, dbs, hdbs, d, hd, rfl⟩)
      · obtain ⟨ts, hts, rfl⟩ := (hdata.2 d hd).2
        obtain ⟨t, ht', rfl⟩ := List.mem_map.1 hmem
        exact .inr (.inr ⟨d, hd, ts, hts, t, ht', rfl⟩)
    · rw [ht]
      exact .inl rfl
  refine
    { tables := fun e he => ?_
      columns := fun e he => ?_
      dbRole := fun k d hr => ?_
      columnsRole := fun k d t hr => ?_
      cover := fun g hg => ?_
      dbGrouped := fun k d g h2 hr hph => ?_
      filed := fun k h2 he => ?_ }
  · rw [hstore] at he
    exact h.tables e he
  · rw [hstore] at he
    exact h.columns e he
  · by_cases hk : k < r.tasks.size
    · rw [(hng.old_fields hk).1] at hr
      exact h.dbRole k d hr
    · rcases hnewRole k (by omega) with hc | ⟨_, dbs, hdbs, d', hd', hc⟩ | ⟨_, _, _, _, _, _, hc⟩
      · rw [hc] at hr
        cases hr
      · rw [hc] at hr
        cases hr
        exact ⟨dbs, hdbs, hd'⟩
      · rw [hc] at hr
        cases hr
  · by_cases hk : k < r.tasks.size
    · rw [(hng.old_fields hk).1] at hr
      exact h.columnsRole k d t hr
    · rcases hnewRole k (by omega) with hc | ⟨_, _, _, _, _, hc⟩ | ⟨d', hdj, ts, hts, t', ht', hc⟩
      · rw [hc] at hr
        cases hr
      · rw [hc] at hr
        cases hr
      · -- a table of a database task's database, which is among the source's databases
        rw [hc] at hr
        cases hr
        exact ⟨h.dbRole j _ hdj, ts, hts, ht'⟩
  · rw [hng.gsize] at hg
    rw [hng.group]
    by_cases hg' : g < r.groups.size
    · -- an old group keeps its members and their roles
      rw [if_pos hg']
      obtain ⟨hl, hd⟩ := h.cover g hg'
      have hmem : ∀ c, r.Member g c → r'.Member g c ∧ (r'.task c).role = (r.task c).role :=
        fun c hm => by
          have hc := (htree.member g c hm).2.1
          exact ⟨(member_iff (hng.old_fields hc).2.2.1).2 hm, (hng.old_fields hc).1⟩
      have hown := (htree.owner g hg').2.1
      refine ⟨fun ho => ?_, fun d hr => ?_⟩
      · obtain ⟨dbs, hdbs, hst, hc⟩ := hl ho
        refine ⟨dbs, hdbs, hstore ▸ hst, fun d hd => ?_⟩
        obtain ⟨c, hm, hr⟩ := hc d hd
        exact ⟨c, (hmem c hm).1, (hmem c hm).2.trans hr⟩
      · rw [(hng.old_fields hown).1] at hr
        obtain ⟨ts, hts, hc⟩ := hd d hr
        refine ⟨ts, hts, fun t ht => ?_⟩
        obtain ⟨c, hm, hr⟩ := hc t ht
        exact ⟨c, (hmem c hm).1, (hmem c hm).2.trans hr⟩
    · -- the new group: its owner is the starting task
      have hgG : g = r.groups.size := by omega
      subst hgG
      rw [if_neg (Nat.lt_irrefl _), if_pos rfl]
      refine ⟨fun ho => ?_, fun d hr => ?_⟩
      · obtain ⟨dbs, hdbs, hst, rfl⟩ := hdata.1 ho
        exact ⟨dbs, hdbs, hstore ▸ hst, fun d hd => hng.member_of_mem (List.mem_map_of_mem hd)⟩
      · rw [(hng.old_fields hlt).1] at hr
        obtain ⟨-, ts, hts, rfl⟩ := hdata.2 d hr
        exact ⟨ts, hts, fun t ht => hng.member_of_mem (List.mem_map_of_mem ht)⟩
  · rw [hstore]
    by_cases hk : k < r.tasks.size
    · rw [(hng.old_fields hk).1] at hr
      by_cases hkj : k = j
      · subst hkj
        exact (hdata.2 d hr).1
      · rw [hng.old k hk hkj] at hph
        exact h.dbGrouped k d g h2 hr hph
    · rcases hng.task_of_le (c := k) (by omega) with ⟨role, -, ht⟩ | ht <;> rw [ht] at hph <;>
        cases hph
  · obtain ⟨hk, he⟩ := hng.ended_old he
    exact (Filed.congr (hng.old_fields hk).1 hstore).2 (h.filed k h2 he)

/-- **A task that starts a group keeps its step going.**  It takes up checking the new
group, whose members are queued to start; for a source that names things by texts, the
loader's group holds the databases it filed, and a database task's group the tables it
filed. -/
theorem Stepping.startGroup (h : r.Stepping S j)
    (hph : (r.task j).phase = .start ∨ ∃ o, (r.task j).phase = .gotNames o)
    (hng : NewGroup r r' j roles)
    (hroles : ∀ role ∈ roles, ∀ c, 3 ≤ c →
      S.Shape c { role, callbacks := [.childDone r.groups.size] })
    (hshape : S.Shape j { r.task j with phase := .grouped r.groups.size })
    (hdata : TextNames S.source →
      (j = 2 → ∃ dbs, namesAnswer S.source none = .ok dbs ∧ (r.store 2).databases = dbs ∧
        roles = dbs.map (.database 2)) ∧
      (∀ d, (r.task j).role = .database 2 d → (∃ e ∈ (r.store 2).tables, e.1 = d) ∧
        ∃ ts, namesAnswer S.source (some d) = .ok ts ∧ roles = ts.map (.columns 2 d))) :
    r'.Stepping S j := by
  have hlt := h.moving.lt
  have hN : 3 ≤ r.tasks.size := h.top.size
  have hj := h.moving.lower
  have hsize := hng.size
  refine ⟨h.moving.startGroup hph hng hroles hshape, ?_, fun hs => ?_, ?_, fun hs hfs => ?_⟩
  · refine h.top.extend (by omega) (hng.old 0 (by omega) (by omega))
      (hng.old 1 (by omega) (by omega)) (hng.old_fields (by omega)).2.1
      (hng.old_fields (by omega)).2.2.1 (by simp only [fut, hng.futs]) (by rw [hng.futs])
      (by rw [hng.world]) hng.queue fun x hx => ?_
    obtain ⟨c, hc, rfl⟩ := List.mem_map.1 hx
    have := (List.mem_range'_1.1 hc).1
    simp only [Event.above, decide_eq_false_iff_not]
    omega
  · have hrole := LoadSetting.Shape.grouped_role hshape rfl
    exact (h.data hs).newGroup h.moving.tree hng hlt hrole (hdata hs)
  · exact h.cache.frame (by rw [hng.world]) (by rw [hng.world])
      (by rw [hng.world]; exact h.cache.sources) (hng.old_fields (by omega)).2.1
  · refine (h.clean hs hfs).frame (fun k e _ he => .inl ?_) (fun k _ hm => ?_) hng.group_flags
      fun k _ hx => ?_
    · exact (hng.ended_old he).2
    · exact (hng.mustCancel_old hm).2
    · rcases hng.mem_queue hx with hx | ⟨c, hc, -⟩
      · exact hx
      · cases hc

end NewGroup

/-! ## Filing in the store -/

/-- A step keeps going through a change of the loader's store that keeps the store's
part. -/
theorem Stepping.setStore (h : r.Stepping S j) {F : Store → Store}
    (hdata : TextNames S.source → (r.setStore 2 F).LoadData S) : (r.setStore 2 F).Stepping S j :=
  ⟨h.moving.congr rfl rfl rfl rfl,
    h.top.frame le_rfl rfl rfl rfl rfl rfl le_rfl rfl (fun _ hx _ => hx) fun _ hx _ => .inl hx, hdata,
    h.cache.frame rfl rfl h.cache.sources rfl,
    fun hs hfs => (h.clean hs hfs).frame (fun _ _ _ he => .inl he) (fun _ _ => id)
      (fun _ => ⟨rfl, rfl, rfl⟩) fun _ _ => id⟩

/-- What a task filed stays filed while the store keeps every key it had. -/
theorem Filed.mono {k : Nat} (hrole : (r'.task k).role = (r.task k).role)
    (ht : ∀ d, (∃ e ∈ (r.store 2).tables, e.1 = d) → ∃ e ∈ (r'.store 2).tables, e.1 = d)
    (hc : ∀ p, (∃ e ∈ (r.store 2).columns, e.1 = p) → ∃ e ∈ (r'.store 2).columns, e.1 = p)
    (h : r.Filed S k) : r'.Filed S k := by
  unfold Filed at h ⊢
  rw [hrole]
  generalize (r.task k).role = role at h ⊢
  cases role with
  | database l d => exact ⟨ht _ h.1, fun ts hts t htt => hc _ (h.2 ts hts t htt)⟩
  | columns l d t => exact hc _ h
  | _ => trivial

/-- **The loader files the databases.**  Before it starts its group the loader is the last
task and there is no group, so a fresh store that holds the databases keeps the store's
part. -/
theorem LoadData.reset (h : r.LoadData S) (htree : r.LoadTree S) (hsize : r.tasks.size = 3)
    (hgsize : r.groups.size = 0) (dbs : List Value) :
    (r.setStore 2 fun _ => { databases := dbs }).LoadData S := by
  have hstore : (r.setStore 2 fun _ => { databases := dbs }).store 2 = { databases := dbs } :=
    store_setStore_self ..
  have hrole := htree.loader_role (by omega)
  -- a task under the caller is the loader
  have hpast : ∀ k, 2 ≤ k → k ≠ 2 → r.task k = default := fun k _ hk =>
    task_of_size_le r (by omega)
  refine
    { tables := fun e he => ?_
      columns := fun e he => ?_
      dbRole := fun k d hr => h.dbRole k d hr
      columnsRole := fun k d t hr => h.columnsRole k d t hr
      cover := fun g hg => absurd hg (by simp [hgsize])
      dbGrouped := fun k d g h2 hr hph => ?_
      filed := fun k h2 he => ?_ }
  · rw [hstore] at he
    cases he
  · rw [hstore] at he
    cases he
  · exfalso
    by_cases hk : k = 2
    · subst hk
      rw [task_setStore, hrole] at hr
      cases hr
    · rw [task_setStore, hpast k h2 hk] at hr
      cases hr
  · by_cases hk : k = 2
    · subst hk
      unfold Filed
      rw [task_setStore, hrole]
      trivial
    · rw [task_setStore, hpast k h2 hk] at he
      cases he

/-- **A database task files its tables.**  The tables of a database of texts, as the
source answers, keep the store's part; every key the store had stays. -/
theorem LoadData.putTables (h : r.LoadData S) {d : Value} {ts : List Value} (hd : d.IsText)
    (hts : namesAnswer S.source (some d) = .ok ts) :
    (r.setStore 2 fun s => { s with tables := KeyMap.put s.tables d ts }).LoadData S := by
  have hstore : (r.setStore 2 fun s => { s with tables := KeyMap.put s.tables d ts }).store 2 =
      { r.store 2 with tables := KeyMap.put (r.store 2).tables d ts } := store_setStore_self ..
  have hkeys : ∀ d', (∃ e ∈ (r.store 2).tables, e.1 = d') → ∃ e ∈ ((r.setStore 2
      fun s => { s with tables := KeyMap.put s.tables d ts }).store 2).tables, e.1 = d' :=
    fun d' hd' => by
      rw [hstore]
      exact KeyMap.key_mem_put hd'
  refine
    { tables := fun e he => ?_
      columns := fun e he => by rw [hstore] at he; exact h.columns e he
      dbRole := fun k d' hr => h.dbRole k d' hr
      columnsRole := fun k d' t hr => h.columnsRole k d' t hr
      cover := fun g hg => ?_
      dbGrouped := fun k d' g h2 hr hph => hkeys _ (h.dbGrouped k d' g h2 hr hph)
      filed := fun k h2 he => Filed.mono (r := r) rfl hkeys (fun p hp => by rw [hstore]; exact hp)
        (h.filed k h2 he) }
  · rw [hstore] at he
    rcases KeyMap.mem_put he with he | ⟨a, ha, rfl, hsame⟩ | rfl
    · exact h.tables e he
    · -- an old entry of the same key: a text is the same only as itself
      obtain ⟨htext, -⟩ := h.tables a ha
      have heq : a.1 = d := (Value.same_iff_of_isText htext hd).1 hsame
      exact ⟨htext, by rw [heq]; exact hts⟩
    · exact ⟨hd, hts⟩
  · obtain ⟨hl, hd'⟩ := h.cover g hg
    refine ⟨fun ho => ?_, hd'⟩
    obtain ⟨dbs, hdbs, hst, hc⟩ := hl ho
    exact ⟨dbs, hdbs, by rw [hstore]; exact hst, hc⟩

/-- **A column task files its columns.**  The columns of a table of texts, as the source
answers, keep the store's part; every key the store had stays. -/
theorem LoadData.putColumns (h : r.LoadData S) {d t : Value} {cs : List ColumnEntry}
    (hd : d.IsText) (ht : t.IsText) (hcs : columnsAnswer S.source d t = .ok cs) :
    (r.setStore 2 fun s => { s with columns := KeyMap.put s.columns (d, t) cs }).LoadData S := by
  have hstore : (r.setStore 2 fun s => { s with columns := KeyMap.put s.columns (d, t) cs }).store 2 =
      { r.store 2 with columns := KeyMap.put (r.store 2).columns (d, t) cs } :=
    store_setStore_self ..
  have hkeys : ∀ p, (∃ e ∈ (r.store 2).columns, e.1 = p) → ∃ e ∈ ((r.setStore 2
      fun s => { s with columns := KeyMap.put s.columns (d, t) cs }).store 2).columns, e.1 = p :=
    fun p hp => by
      rw [hstore]
      exact KeyMap.key_mem_put hp
  refine
    { tables := fun e he => by rw [hstore] at he; exact h.tables e he
      columns := fun e he => ?_
      dbRole := fun k d' hr => h.dbRole k d' hr
      columnsRole := fun k d' t' hr => h.columnsRole k d' t' hr
      cover := fun g hg => ?_
      dbGrouped := fun k d' g h2 hr hph => by rw [hstore]; exact h.dbGrouped k d' g h2 hr hph
      filed := fun k h2 he => Filed.mono (r := r) rfl (fun d' hd' => by rw [hstore]; exact hd')
        hkeys (h.filed k h2 he) }
  · rw [hstore] at he
    rcases KeyMap.mem_put he with he | ⟨a, ha, rfl, hsame⟩ | rfl
    · exact h.columns e he
    · obtain ⟨h1, h2, -⟩ := h.columns a ha
      rw [SameKey.same_pair, Bool.and_eq_true] at hsame
      have hd1 : a.1.1 = d := (Value.same_iff_of_isText h1 hd).1 hsame.1
      have ht1 : a.1.2 = t := (Value.same_iff_of_isText h2 ht).1 hsame.2
      exact ⟨h1, h2, by rw [hd1, ht1]; exact hcs⟩
    · exact ⟨hd, ht, hcs⟩
  · obtain ⟨hl, hd'⟩ := h.cover g hg
    refine ⟨fun ho => ?_, hd'⟩
    obtain ⟨dbs, hdbs, hst, hc⟩ := hl ho
    exact ⟨dbs, hdbs, by rw [hstore]; exact hst, hc⟩

/-! ## Cancels -/

section Cancels

variable {L : List Nat}

/-- Cancels of tasks under the caller keep `LoadTop`: none of them waits on the caller's
outcome, so every task it wakes is under the caller too. -/
theorem LoadTop.cancels (h : r.LoadTop S) (htree : r.LoadTree S) (hc : Cancels r r' L)
    (hL : ∀ c ∈ L, 2 ≤ c) : r'.LoadTop S := by
  have htask : ∀ k, k < 2 → r'.task k = r.task k := fun k hk => by
    rcases hc.task k with ht | ⟨hkL, -⟩
    · exact ht
    · have := hL k hkL
      omega
  have hf : ∀ k, (r'.task k).ending = (r.task k).ending ∧
      (r'.task k).callbacks = (r.task k).callbacks := fun k => by
    rcases hc.task k with ht | ⟨-, ht⟩ <;> rw [ht] <;> exact ⟨rfl, rfl⟩
  -- a cancelled task waits on an outcome of its own, not on the caller's
  have hwait : ∀ c ∈ L, ∀ f, (r.task c).waitsOn = some f → (r.fut f).state = .pending →
      (r.fut f).waiters = [c] := fun c hcL f hw hp => htree.waitsOn c f (hL c hcL) hw hp
  have hfut : r'.fut 0 = r.fut 0 := by
    rcases hc.fut 0 with hf' | ⟨hp, ⟨c, hcL, hw⟩, -⟩
    · exact hf'
    · have hws := hwait c hcL 0 hw hp
      rw [h.fut.2, List.cons.injEq] at hws
      have := hL c hcL
      omega
  refine h.frame (by rw [hc.size]) (htask 0 (by omega)) (htask 1 (by omega)) (hf 2).1 (hf 2).2
    hfut (by rw [hc.futsSize]) (by rw [hc.world]) (fun x hx hab => ?_) fun x hx _ => .inl (hc.queueOld _ hx)
  rcases hc.queueNew _ hx with hx' | ⟨f, hp, ⟨c, hcL, hw⟩, w, hwf, rfl⟩
  · exact hx'
  · rw [hwait c hcL f hw hp, List.mem_singleton] at hwf
    subst hwf
    have := hL w hcL
    simp only [Event.above, decide_eq_true_eq] at hab
    omega

/-- Cancels keep the store's part: they change no role, phase, ending or callback. -/
theorem LoadData.cancels (h : r.LoadData S) (hc : Cancels r r' L) : r'.LoadData S := by
  have hf : ∀ k, (r'.task k).role = (r.task k).role ∧ (r'.task k).phase = (r.task k).phase ∧
      (r'.task k).ending = (r.task k).ending ∧ (r'.task k).callbacks = (r.task k).callbacks :=
    fun k => by rcases hc.task k with ht | ⟨-, ht⟩ <;> rw [ht] <;> exact ⟨rfl, rfl, rfl, rfl⟩
  exact h.frame (by simp only [store, hc.stores]) (fun k => (hf k).1) (fun k => (hf k).2.2.2)
    (fun k g _ hph => (hf k).2.1 ▸ hph) (fun k _ he => .inl ((hf k).2.2.1 ▸ he))
    (by rw [hc.groups]) fun g => by rw [group_eq_of_groups hc.groups]

/-- In a clean run no group aborts, so nothing is cancelled. -/
theorem LoadClean.cancels (h : r.LoadClean) (hc : Cancels r r' L)
    (hL : ∀ c ∈ L, (∃ g < r.groups.size, r.Member g c ∧ (r.group g).aborting) ∨
      (∃ g < r.groups.size, (r.group g).owner = c ∧ (r.group g).aborting)) : r'.LoadClean := by
  have hnone : ∀ c ∈ L, False := fun c hcL => by
    rcases hL c hcL with ⟨g, -, -, ha⟩ | ⟨g, -, -, ha⟩ <;> simp [(h.groups g).2.1] at ha
  refine h.frame (fun k e _ he => .inl ?_) (fun k _ hm => ?_)
    (fun g => by rw [group_eq_of_groups hc.groups]; exact ⟨rfl, rfl, rfl⟩) fun k _ hx => ?_
  · rcases hc.task k with ht | ⟨-, ht⟩ <;> rw [ht] at he <;> exact he
  · rcases hc.task k with ht | ⟨hkL, -⟩
    · rwa [ht] at hm
    · exact (hnone k hkL).elim
  · rcases hc.queueNew _ hx with hx' | ⟨f, -, ⟨c, hcL, -⟩, -⟩
    · exact hx'
    · exact (hnone c hcL).elim

/-- **A step keeps going through cancels** of members and owners of aborting groups. -/
theorem Stepping.cancels (h : r.Stepping S j) (hc : Cancels r r' L)
    (hL : ∀ c ∈ L, (∃ g < r.groups.size, r.Member g c ∧ (r.group g).aborting) ∨
      (∃ g < r.groups.size, (r.group g).owner = c ∧ (r.group g).aborting)) : r'.Stepping S j := by
  have hL2 : ∀ c ∈ L, 2 ≤ c := fun c hcL => h.moving.tree.two_le_of_cancel (hL c hcL)
  have hend : (r'.task 2).ending = (r.task 2).ending := by
    rcases hc.task 2 with ht | ⟨-, ht⟩ <;> rw [ht]
  exact ⟨h.moving.cancels hc hL, h.top.cancels h.moving.tree hc hL2,
    fun hs => (h.data hs).cancels hc,
    h.cache.frame (by rw [hc.world]) (by rw [hc.world]) (by rw [hc.world]; exact h.cache.sources)
      hend,
    fun hs hfs => (h.clean hs hfs).cancels hc hL⟩

end Cancels

/-! ## What a group records -/

/-- **A step keeps going through a change of what the groups record** that keeps the
tree, every task and outcome, the owners, and the outcome and live members of every
group the moving task does not own; the clean part is the caller's to give. -/
theorem Stepping.regroup (h : r.Stepping S j) (htree : r'.LoadTree S) (ht : r'.tasks = r.tasks)
    (hf : r'.futs = r.futs) (hq : r'.queue = r.queue) (hs : r'.stores = r.stores)
    (hw : r'.world = r.world) (hsize : r'.groups.size = r.groups.size)
    (howner : ∀ g, (r'.group g).owner = (r.group g).owner)
    (hgroup : ∀ g, (r.group g).owner ≠ j →
      (r'.group g).fut = (r.group g).fut ∧ (r'.group g).live = (r.group g).live)
    (hclean : TextNames S.source → (fetchedSnapshot S.source).isSome → r'.LoadClean) :
    r'.Stepping S j := by
  have htask : ∀ k, r'.task k = r.task k := task_eq_of_tasks ht
  refine ⟨h.moving.regroup htree ht hf hq hgroup, ?_, fun hs' => ?_, ?_, hclean⟩
  · exact h.top.frame (by rw [ht]) (htask 0) (htask 1) (by rw [htask]) (by rw [htask])
      (by simp only [fut, hf]) (by rw [hf]) (by rw [hw])
      (fun x hx _ => by rwa [hq] at hx)
      fun x hx _ => .inl (by rwa [hq])
  · exact (h.data hs').frame (by simp only [store, hs]) (fun k => by rw [htask])
      (fun k => by rw [htask]) (fun k g _ => by rw [htask]; exact id)
      (fun k _ he => .inl (by rwa [htask] at he)) hsize howner
  · exact h.cache.frame (by rw [hw]) (by rw [hw]) (by rw [hw]; exact h.cache.sources)
      (by rw [htask])

/-- **Clearing the outcome of its own group keeps the step going.** -/
theorem Stepping.clearFut (h : r.Stepping S j) {g : Nat} (hown : (r.group g).owner = j) :
    (r.setGroup g fun x => { x with fut := none }).Stepping S j := by
  -- every group keeps all it records but the cleared outcome
  have hkeep : ∀ g', ((r.setGroup g fun x => { x with fut := none }).group g').owner =
      (r.group g').owner ∧ ((r.setGroup g fun x => { x with fut := none }).group g').live =
      (r.group g').live ∧ ((r.setGroup g fun x => { x with fut := none }).group g').errors =
      (r.group g').errors ∧ ((r.setGroup g fun x => { x with fut := none }).group g').aborting =
      (r.group g').aborting ∧
      ((r.setGroup g fun x => { x with fut := none }).group g').outsideCancel =
      (r.group g').outsideCancel := fun g' => by
    rcases group_setGroup_cases r g (fun x => { x with fut := none }) g' with hv | ⟨rfl, hv⟩ <;>
      rw [hv] <;> exact ⟨rfl, rfl, rfl, rfl, rfl⟩
  have htree := h.moving.tree.regroupOne (g := g) (F := fun x => { x with fut := none })
    ⟨rfl, rfl⟩ (fun _ hf => by cases hf) ⟨[], by simp, by simp⟩ id
    (fun hg ha => h.moving.tree.abortReason g hg ha) fun _ ho => .inl ho
  refine h.regroup htree rfl rfl rfl rfl rfl (by simp) (fun g' => (hkeep g').1) (fun g' hg' => ?_)
    fun hs hfs => (h.clean hs hfs).frame (fun _ _ _ he => .inl he) (fun _ _ => id)
      (fun g' => (hkeep g').2.2) fun _ _ => id
  -- the group whose outcome is cleared is the moving task's own
  rcases group_setGroup_cases r g (fun x => { x with fut := none }) g' with hv | ⟨rfl, -⟩
  · rw [hv]
    exact ⟨rfl, rfl⟩
  · exact absurd hown hg'

/-- **An owner cancelled from outside keeps its step going.**  A cancelled step of an
owner comes from an aborting group it is a member of, since the only group it owns is
the one it checks, which is not aborting; the owner records the cancel, and its group
aborts and cancels its live members.  A clean run has no cancelled step. -/
theorem Stepping.exitCancel (h : r.Stepping S j) {g : Nat} (hph : (r.task j).phase = .grouped g)
    {thrown : Bool}
    (hthrown : thrown = true → (∃ g' < r.groups.size, r.Member g' j ∧ (r.group g').aborting) ∨
      ∃ g' < r.groups.size, (r.group g').owner = j ∧ (r.group g').aborting)
    (hclean : TextNames S.source → (fetchedSnapshot S.source).isSome → thrown = false) :
    (r.exitCancel g thrown).Stepping S j := by
  unfold Run.exitCancel
  split
  · rename_i hcond
    rw [Bool.and_eq_true, Bool.not_eq_true'] at hcond
    obtain ⟨hth, hab⟩ := hcond
    obtain ⟨hg, hown⟩ := h.moving.tree.grouped j g h.moving.lower hph
    obtain ⟨g', hg', hm, hab'⟩ : ∃ g' < r.groups.size, r.Member g' j ∧ (r.group g').aborting := by
      rcases hthrown hth with hmem | ⟨g'', hg'', ho, hab''⟩
      · exact hmem
      · exfalso
        rcases (h.moving.tree.owner g'' hg'').2.2 with hph' | hend
        · rw [ho, hph] at hph'
          obtain rfl := Phase.grouped.inj hph'
          rw [hab] at hab''
          cases hab''
        · rw [ho, h.moving.unended] at hend
          cases hend
    have hnot : TextNames S.source → (fetchedSnapshot S.source).isSome → r.LoadClean → False :=
      fun hs hfs _ => by
        rw [hclean hs hfs] at hth
        cases hth
    -- first the cancel is recorded
    have hk1 : ∀ g₀, ((r.setGroup g fun x => { x with outsideCancel := true }).group g₀).owner =
        (r.group g₀).owner ∧
        ((r.setGroup g fun x => { x with outsideCancel := true }).group g₀).live = (r.group g₀).live ∧
        ((r.setGroup g fun x => { x with outsideCancel := true }).group g₀).fut = (r.group g₀).fut ∧
        ((r.setGroup g fun x => { x with outsideCancel := true }).group g₀).errors =
          (r.group g₀).errors ∧
        ((r.setGroup g fun x => { x with outsideCancel := true }).group g₀).aborting =
          (r.group g₀).aborting := fun g₀ => by
      rcases group_setGroup_cases r g (fun x => { x with outsideCancel := true }) g₀ with
        hv | ⟨rfl, hv⟩ <;> rw [hv] <;> exact ⟨rfl, rfl, rfl, rfl, rfl⟩
    -- the owner is the moving task, a member of an aborting group
    have htree1 := h.moving.tree.regroupOne (g := g) (F := fun x => { x with outsideCancel := true })
      ⟨rfl, rfl⟩ (fun _ hf => hf) ⟨[], by simp, by simp⟩ id (fun _ ha => by simp [hab] at ha)
      fun _ _ => .inr ⟨g', hg', by rw [hown]; exact hm, by rw [(hk1 g').2.2.2.2]; exact hab'⟩
    have hst1 := h.regroup htree1 rfl rfl rfl rfl rfl (by simp) (fun g₀ => (hk1 g₀).1)
      (fun g₀ _ => ⟨(hk1 g₀).2.2.1, (hk1 g₀).2.1⟩) fun hs hfs => ((hnot hs hfs (h.clean hs hfs))).elim
    -- then the group aborts
    have hout : ((r.setGroup g fun x => { x with outsideCancel := true }).group g).outsideCancel := by
      rw [group_setGroup_self r _ hg]
    generalize hr1 : r.setGroup g (fun x => { x with outsideCancel := true }) = r1 at htree1 hst1 hout
    have hg1 : g < r1.groups.size := by rw [← hr1]; simpa using hg
    have hk2 : ∀ g₀, ((r1.setGroup g fun x => { x with aborting := true }).group g₀).owner =
        (r1.group g₀).owner ∧
        ((r1.setGroup g fun x => { x with aborting := true }).group g₀).live = (r1.group g₀).live ∧
        ((r1.setGroup g fun x => { x with aborting := true }).group g₀).fut = (r1.group g₀).fut ∧
        ((r1.setGroup g fun x => { x with aborting := true }).group g₀).errors =
          (r1.group g₀).errors ∧
        ((r1.setGroup g fun x => { x with aborting := true }).group g₀).outsideCancel =
          (r1.group g₀).outsideCancel := fun g₀ => by
      rcases group_setGroup_cases r1 g (fun x => { x with aborting := true }) g₀ with
        hv | ⟨rfl, hv⟩ <;> rw [hv] <;> exact ⟨rfl, rfl, rfl, rfl, rfl⟩
    -- the group aborts for its owner's cancel
    have htree2 := htree1.regroupOne (g := g) (F := fun x => { x with aborting := true })
      ⟨rfl, rfl⟩ (fun _ hf => hf) ⟨[], by simp, by simp⟩ (fun _ => rfl) (fun _ _ => .inr hout)
      fun _ ho => .inl ho
    have hst2 := hst1.regroup htree2 rfl rfl rfl rfl rfl (by simp) (fun g₀ => (hk2 g₀).1)
      (fun g₀ _ => ⟨(hk2 g₀).2.2.1, (hk2 g₀).2.1⟩) fun hs hfs => (hnot hs hfs (h.clean hs hfs)).elim
    -- and cancels its live members
    refine hst2.cancels (cancels_abort r1) fun c hc => .inl ⟨g, by simpa using hg1, ?_, ?_⟩
    · have hc' : c ∈ ((r1.setGroup g fun x => { x with aborting := true }).group g).live := by
        rw [(hk2 g).2.1]
        exact hc
      exact ((htree2.live g (by simpa using hg1)).2 c hc').1
    · rw [group_setGroup_self r1 _ hg1]
  · exact h

/-! ## Ending a group's check -/

/-- The first failure of a group of failures that each name one. -/
theorem Failure.first_group_ne_none {fs : List Failure} (hne : fs ≠ [])
    (hall : ∀ f ∈ fs, f.first ≠ none) : (Failure.group fs).first ≠ none := by
  cases fs with
  | nil => exact absurd rfl hne
  | cons f _ => simpa [Failure.first] using hall f List.mem_cons_self

/-- A task is a member of one group at most. -/
theorem Member.unique {g g' c : Nat} (h : r.Member g c) (h' : r.Member g' c) : g = g' := by
  unfold Member at h h'
  rw [h] at h'
  exact Callback.childDone.inj (List.cons.inj h').1

/-- **An owner none of whose members is live ends its step with the invariant.**  It ends
cancelled if it was cancelled from outside and no member failed, failed with the group's
failures if one did, and otherwise well: every member ended well, so a database task has
filed its tables' columns, and the loader has every database filed and publishes the
snapshot the source's answers make. -/
theorem Stepping.groupEnd (h : r.Stepping S j) {g : Nat} (hph : (r.task j).phase = .grouped g)
    (hlive : (r.group g).live = []) : (r.groupEnd j g).LoadInv S := by
  have h2 := h.moving.lower
  have hlt := h.moving.lt
  obtain ⟨hg, hown⟩ := h.moving.tree.grouped j g h2 hph
  have hrole := LoadSetting.Shape.grouped_role (h.moving.tree.shape j h2 hlt) hph
  -- every member has ended, and the group has noted how
  have hnoted : ∀ c, r.Member g c → (r.task c).ending = some .ok ∨ (r.group g).errors ≠ [] ∨
      (r.group g).aborting := fun c hm =>
    (h.moving.tree.noted g hg c (h.moving.tree.member g c hm).2.1 hm
      (by rw [hlive]; exact List.not_mem_nil)).2
  have hcleanGroup : TextNames S.source → (fetchedSnapshot S.source).isSome →
      (r.group g).errors = [] ∧ (r.group g).outsideCancel = false := fun hs hfs =>
    ⟨((h.clean hs hfs).groups g).1, ((h.clean hs hfs).groups g).2.2⟩
  unfold Run.groupEnd
  dsimp only
  split
  · -- cancelled from outside, and no member failed: the owner is a member of an aborting group
    rename_i hcond
    rw [Bool.and_eq_true] at hcond
    obtain ⟨ho, -⟩ := hcond
    obtain ⟨g', -, hm, hab⟩ := h.moving.tree.outside g hg ho
    rw [hown] at hm
    have h3 := (h.moving.tree.member g' j hm).1
    refine h.finish h3 (fun g'' hm' _ => (hm'.unique hm) ▸ hab) (fun f hf => by cases hf)
      (fun _ hok => by cases hok) fun hs hfs => ?_
    rw [(hcleanGroup hs hfs).2] at ho
    cases ho
  · rename_i hcond
    split
    · -- a member failed: the owner fails with the group's failures
      rename_i herr
      have hne : (r.group g).errors ≠ [] := by simpa using herr
      have hfirst := Failure.first_group_ne_none hne (h.moving.tree.errors g hg)
      have hnot : TextNames S.source → (fetchedSnapshot S.source).isSome → False :=
        fun hs hfs => hne (hcleanGroup hs hfs).1
      split
      · rename_i n s gen hr
        obtain ⟨-, rfl⟩ | ⟨d, hd, -⟩ := hrole
        · split
          · exact h.loadFailed _ hnot
          · exact h.endFailed hfirst hnot
        · rw [hr] at hd
          cases hd
      · rename_i hnl
        obtain ⟨hl, -⟩ | ⟨d, -, h3⟩ := hrole
        · exact absurd hl (hnl _ _ _)
        · exact h.finish h3 (fun _ _ hc => by cases hc) (fun f hf => by cases hf; exact hfirst)
            (fun _ hok => by cases hok) fun hs hfs => (hnot hs hfs).elim
    · -- every member ended well
      rename_i herr
      have herr' : (r.group g).errors = [] := by simpa using herr
      have hout : (r.group g).outsideCancel = false := by simpa [herr'] using hcond
      have hab : (r.group g).aborting = false := by
        cases ha : (r.group g).aborting with
        | false => rfl
        | true =>
          rcases h.moving.tree.abortReason g hg ha with he | ho
          · exact absurd herr' he
          · rw [hout] at ho
            cases ho
      have hok : ∀ c, r.Member g c → (r.task c).ending = some .ok := fun c hm => by
        rcases hnoted c hm with hok | he | ha
        · exact hok
        · exact absurd herr' he
        · rw [hab] at ha
          cases ha
      -- what a member filed
      have hfiledMember : TextNames S.source → ∀ c, r.Member g c → r.Filed S c := fun hs c hm =>
        (h.data hs).filed c (by have := (h.moving.tree.member g c hm).1; omega) (hok c hm)
      split
      · -- the loader publishes what its databases filed
        rename_i n s gen hr
        obtain ⟨-, rfl⟩ | ⟨d, hd, -⟩ := hrole
        · refine h.publish fun hs => ?_
          obtain ⟨dbs, hdbs, hst, hc⟩ := ((h.data hs).cover g hg).1 hown
          rw [hst]
          refine (h.data hs).fetched_eq hs hdbs fun d hd => ?_
          obtain ⟨c, hm, hrc⟩ := hc d hd
          have hf := hfiledMember hs c hm
          unfold Filed at hf
          rw [hrc] at hf
          exact hf
        · rw [hr] at hd
          cases hd
      · -- a database task has every table's columns filed
        rename_i hnl
        obtain ⟨hl, -⟩ | ⟨d, hd, h3⟩ := hrole
        · exact absurd hl (hnl _ _ _)
        refine h.finish h3 (fun _ _ hc => by cases hc) (fun f hf => by cases hf)
          (fun hs _ => ?_) fun _ _ => rfl
        unfold Filed
        rw [hd]
        refine ⟨(h.data hs).dbGrouped j d g h2 hd hph, fun ts hts t ht => ?_⟩
        obtain ⟨ts', hts', hc⟩ := ((h.data hs).cover g hg).2 d (by rw [hown]; exact hd)
        rw [hts] at hts'
        obtain rfl := Except.ok.inj hts'
        obtain ⟨c, hm, hrc⟩ := hc t ht
        have hf := hfiledMember hs c hm
        unfold Filed at hf
        rw [hrc] at hf
        exact hf

/-! ## The phase of an ended task -/

section Rephase

variable {k : Nat} {p : Phase}

/-- **The phase of an ended task is read by nothing but its shape**: giving an ended task
under the caller another phase of its shape, not a group's check, keeps the tree. -/
theorem LoadTree.rephase (h : r.LoadTree S) (hk : 2 ≤ k) (hended : (r.task k).ending.isSome)
    (hshape : S.Shape k { r.task k with phase := p }) (hp : ∀ g, p ≠ .grouped g) :
    (r.setTask k fun t => { t with phase := p }).LoadTree S := by
  have hklt : k < r.tasks.size := by
    by_contra hge
    rw [task_of_size_le r (by omega)] at hended
    cases hended
  have hr := retask_setTask (r := r) (j := k) (f := fun t => { t with phase := p }) fun _ => rfl
  have htaskk : (r.setTask k fun t => { t with phase := p }).task k = { r.task k with phase := p } :=
    task_setTask_self _ _ hklt
  refine h.retask hr ?shape ?fresh ?owner ?grouped ?live ?noted ?ended ?extra ?waits ?failed
    ?cancelled ?must
  case shape =>
    rw [htaskk]
    exact hshape
  case fresh =>
    -- the loader has not ended, so it is not the ended task
    intro hk2 he
    subst hk2
    rw [htaskk] at he
    rw [he] at hended
    cases hended
  case owner =>
    intro g _ _
    rw [htaskk]
    exact .inr hended
  case grouped =>
    intro g hph
    rw [htaskk] at hph
    exact absurd hph (hp g)
  case live =>
    intro g hg hc
    rw [htaskk, setTask_queue]
    exact h.livePending g hg k hc
  case noted =>
    intro g hg hm hnl
    rw [htaskk]
    exact h.noted g hg k hklt hm hnl
  case ended =>
    intro he
    rw [htaskk]
    exact he
  case extra =>
    intro x hx
    cases hx
  case waits =>
    intro f hw hpend
    rw [htaskk] at hw
    exact h.waitsOn k f hk hw hpend
  case failed =>
    intro f he
    rw [htaskk] at he
    exact h.failed k f hk he
  case cancelled =>
    intro g hg hm he
    rw [htaskk] at he
    exact h.cancelled g hg k hm he
  case must => rw [htaskk]

/-- **Giving an ended task another phase of its shape keeps the invariant.** -/
theorem LoadInv.rephase (h : r.LoadInv S) (hk : 2 ≤ k) (hended : (r.task k).ending.isSome)
    (hshape : S.Shape k { r.task k with phase := p }) (hp : ∀ g, p ≠ .grouped g) :
    (r.setTask k fun t => { t with phase := p }).LoadInv S := by
  have htask : ∀ i, i ≠ k → (r.setTask k fun t => { t with phase := p }).task i = r.task i :=
    fun i hi => task_setTask_ne _ _ (Ne.symm hi)
  have hf : ∀ i, ((r.setTask k fun t => { t with phase := p }).task i).role = (r.task i).role ∧
      ((r.setTask k fun t => { t with phase := p }).task i).ending = (r.task i).ending ∧
      ((r.setTask k fun t => { t with phase := p }).task i).callbacks = (r.task i).callbacks ∧
      ((r.setTask k fun t => { t with phase := p }).task i).mustCancel = (r.task i).mustCancel :=
    fun i => by
      rw [task_setTask]
      split <;> exact ⟨rfl, rfl, rfl, rfl⟩
  refine ⟨h.top.frame (by simp) (htask 0 (by omega)) (htask 1 (by omega)) (hf 2).2.1 (hf 2).2.2.1
      rfl le_rfl rfl (fun _ hx _ => hx) fun _ hx _ => .inl hx,
    h.tree.rephase hk hended hshape hp, fun i h2 hi => ?_, fun hs => ?_,
    h.cache.frame rfl rfl h.cache.sources (hf 2).2.1, fun hs hfs => ?_⟩
  · by_cases hik : i = k
    · -- the ended task owes nothing
      subst hik
      intro hend
      rw [(hf i).2.1] at hend
      rw [hend] at hended
      cases hended
    · exact (h.progress i h2 (by simpa using hi)).frame (.of_eq (htask i hik))
        (by rw [htask i hik]) (fun _ _ => ⟨rfl, rfl⟩) (fun _ _ _ => rfl) fun _ hq => hq
  · refine (h.data hs).frame rfl (fun i => (hf i).1) (fun i => (hf i).2.2.1) (fun i g _ hph => ?_)
      (fun i _ he => .inl ((hf i).2.1 ▸ he)) rfl fun _ => rfl
    by_cases hik : i = k
    · subst hik
      rw [task_setTask_self _ _ (by
        by_contra hge
        rw [task_of_size_le r (by omega)] at hended
        cases hended)] at hph
      exact absurd hph (hp g)
    · rwa [htask i hik] at hph
  · exact (h.clean hs hfs).frame (fun i e _ he => .inl ((hf i).2.1 ▸ he))
      (fun i _ hm => (hf i).2.2.2 ▸ hm) (fun _ => ⟨rfl, rfl, rfl⟩) fun _ _ hx => hx

end Rephase

/-! ## Starting a group and checking it -/

/-- **A task that starts a group and checks it at once ends its step with the invariant.**
With members it waits on them; with none its group is done at once, and it ends as an owner
whose members all ended well, in the phase it had. -/
theorem Stepping.startExit (h : r.Stepping S j) {roles : List Role}
    (hph : (r.task j).phase = .start ∨ ∃ o, (r.task j).phase = .gotNames o)
    (hroles : ∀ role ∈ roles, ∀ c, 3 ≤ c →
      S.Shape c { role, callbacks := [.childDone r.groups.size] })
    (hshape : S.Shape j { r.task j with phase := .grouped r.groups.size })
    (hdata : TextNames S.source →
      (j = 2 → ∃ dbs, namesAnswer S.source none = .ok dbs ∧ (r.store 2).databases = dbs ∧
        roles = dbs.map (.database 2)) ∧
      (∀ d, (r.task j).role = .database 2 d → (∃ e ∈ (r.store 2).tables, e.1 = d) ∧
        ∃ ts, namesAnswer S.source (some d) = .ok ts ∧ roles = ts.map (.columns 2 d))) :
    ((r.startGroup j roles).1.groupExit j (r.startGroup j roles).2 false).LoadInv S := by
  have hlt := h.moving.lt
  have h2 := h.moving.lower
  have hng := newGroup_startGroup (r := r) hlt roles
  have hclear := (h.startGroup hph hng hroles hshape hdata).clearFut (g := r.groups.size)
    (by rw [hng.group_new])
  have hG : (r.startGroup j roles).2 = r.groups.size := rfl
  rw [hG, groupExit_eq, exitCancel_false]
  set R := (r.startGroup j roles).1
  have hRsize : j < R.tasks.size := by
    have := hng.size
    simp only [setTask_size] at this
    omega
  -- the new group, its outcome cleared, with its owner checking it
  have hgroup : (((R.setTask j fun t => { t with phase := .grouped r.groups.size }).setGroup
      r.groups.size fun x => { x with fut := none }).group r.groups.size) =
      { owner := j, live := List.range' r.tasks.size roles.length } := by
    rw [group_setGroup_self _ _ (by rw [hng.gsize]; omega), hng.group_new]
  have hcomm : ((R.setGroup r.groups.size fun x => { x with fut := none }).setTask j
      fun t => { t with phase := .grouped r.groups.size }) =
      (R.setTask j fun t => { t with phase := .grouped r.groups.size }).setGroup r.groups.size
        fun x => { x with fut := none } := rfl
  have hphG : (((R.setTask j fun t => { t with phase := .grouped r.groups.size }).setGroup
      r.groups.size fun x => { x with fut := none }).task j).phase = .grouped r.groups.size := by
    rw [task_setGroup, hng.self]
  by_cases hnil : roles = []
  · -- no member: the group is done at once and the task ends in its own phase
    subst hnil
    have hlive : ((R.setGroup r.groups.size fun x => { x with fut := none }).group
        r.groups.size).live = [] := by
      rw [← group_setTask (i := j) (f := fun t => { t with phase := .grouped r.groups.size }),
        hcomm, hgroup]
      rfl
    rw [groupResume_eq, if_neg (not_not.2 hlive)]
    have hY : (((R.setGroup r.groups.size fun x => { x with fut := none }).setTask j
        fun t => { t with phase := .grouped r.groups.size }).setTask j
        fun t => { t with phase := (r.task j).phase }) =
        R.setGroup r.groups.size fun x => { x with fut := none } := by
      rw [setTask_setTask]
      refine setTask_eq_self _ _ ?_
      rw [Function.comp_apply, task_setGroup, task_startGroup_of_lt _ _ _ hlt]
    rw [← hY, groupEnd_setTask_phase]
    refine LoadInv.rephase (by rw [hcomm]; exact hclear.groupEnd hphG (by rw [hgroup]; rfl)) h2
      (groupEnd_ended _ (by simpa only [setTask_size, setGroup_tasks] using hRsize)) ?_
      fun g hg => ?_
    · refine LoadSetting.Shape.of_role (h.moving.tree.shape j h2 hlt) ?_
      rw [role_groupEnd, task_setTask_self _ _ (by simpa only [setGroup_tasks] using hRsize),
        task_setGroup, task_startGroup_of_lt _ _ _ hlt]
    · rcases hph with hp | ⟨o, hp⟩ <;> rw [hp] at hg <;> cases hg
  · -- members: the owner waits on them
    have hlive : ((R.setGroup r.groups.size fun x => { x with fut := none }).group
        r.groups.size).live ≠ [] := by
      rw [← group_setTask (i := j) (f := fun t => { t with phase := .grouped r.groups.size }),
        hcomm, hgroup]
      simpa using hnil
    rw [← groupResume_setTask_grouped _ hlive, hcomm, groupResume_eq, if_pos (by rwa [← hcomm])]
    exact hclear.wait (by rw [setGroup_size, hng.gsize]; omega) (by rw [hgroup]) hphG
      (by rwa [← hcomm])

end Run

end SqlAssist.Schema
