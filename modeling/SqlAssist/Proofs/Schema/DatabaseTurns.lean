import SqlAssist.Proofs.Schema.LoneLoad
import SqlAssist.Proofs.Schema.Endings
import SqlAssist.Proofs.Schema.Queued

/-!
# The turns of a database task

A database task of a lone load asks its source for the tables of its database.  The
answer comes at once, or the question yields and the task takes the answer one turn
later.  With the answer the task fails, if the question failed or the database's name
cannot be a key (`tablesFailure`), or files the tables and starts a group of column
tasks, whose check waits; a database without tables ends at once.  A database task that
checks its group later ends cancelled, failed with its group's failures, or done.

## Main statements

* `Run.LoadInv.database_step`: a database task at its start or holding its answer yields,
  or goes on with the source's answer to its question.
* `Run.LoadInv.database_yields`, `Run.LoadInv.database_fails`: a task whose tables fail
  yields once if its question yields, and otherwise fails with the failure of its tables,
  queueing the note of its end.
* `Run.LoadInv.database_goes_on`: a task whose tables do not fail does not fail with them.
* `Run.LoadInv.database_failed`: a database task fails with the failure of its tables, or
  with the failures its group recorded (`Run.failed_groupExit`).
* `Run.LoadInv.appended_step`, `Run.LoadInv.appended_note`: what a turn under the caller
  queues, when it cancels nothing or notes a member's end.
-/

namespace SqlAssist.Schema

/-- The failure a database task raises for the database `d` on the answer `o` to its
question for the tables of `d`: the failure of the question, or the misuse of a name that
cannot be a key.  None when the task goes on with the tables. -/
def tablesFailureOf (d : Value) : Except FetchError (List Value) → Option LoadFailure
  | .error e => some (.stage (LoadError.ofFetch (.tables d) e))
  | .ok _ =>
    match d.checkKey with
    | .error m => some (.misuse m)
    | .ok () => none

/-- The failure a load from the source `s` raises for the database `d` once it has asked
for the tables of `d`. -/
def tablesFailure (s : Option Source) (d : Value) : Option LoadFailure :=
  tablesFailureOf d (namesAnswer s (some d))

/-- What a source replies to a question for names: whether it yields, and its answer.  A
missing source answers nothing after yielding. -/
def namesReply : Option Source → Option Value → Reply (List Value)
  | some s, d => (s.askNames d).2
  | none, _ => ⟨true, .ok []⟩

@[simp] theorem namesReply_outcome (s : Option Source) (d : Option Value) :
    (namesReply s d).outcome = namesAnswer s d := by
  cases s <;> rfl

/-- A run whose sources agree with `ss` gets the reply of `ss` to a question for names. -/
theorem ask_namesReply {ss : List (String × Source)} {r : Run} (h : SourcesAgree ss r.world.sources)
    (src : String) (d : Option Value) :
    (r.ask src (·.askNames d) []).2 = namesReply (ss.lookup src) d := by
  rcases h.lookup_cases src with ⟨hs₀, hs⟩ | ⟨s₀, s, hs₀, hs, h0⟩
  · rw [hs₀, Run.ask_of_lookup_none r src _ [] hs]
    rfl
  · rw [hs₀, Run.ask_of_lookup r src _ [] hs]
    exact h0.names d

namespace Run

variable {r : Run} {i l : Nat} {d : Value} {o : Except FetchError (List Value)}

/-! ## Taking the answer -/

/-- **A failure of the tables ends the task with it.** -/
theorem databaseTables_of_failure {lf : LoadFailure} (h : tablesFailureOf d o = some lf) :
    r.databaseTables i l d o = r.finish i (.failed (.raise lf)) := by
  unfold databaseTables
  unfold tablesFailureOf at h
  cases o with
  | error e =>
    cases h
    rfl
  | ok ts =>
    -- the tables fail only by a database that is no key
    obtain ⟨m, hm, rfl⟩ : ∃ m, d.checkKey = .error m ∧ LoadFailure.misuse m = lf := by
      revert h
      cases d.checkKey <;> simp
    dsimp only
    rw [hm]

/-- A task whose tables do not fail ends well at once, or waits on the group it starts. -/
theorem ending_databaseTables (h : tablesFailureOf d o = none) (hend : (r.task i).ending = none)
    (hi : i < r.tasks.size) :
    ((r.databaseTables i l d o).task i).ending = none ∨
      ((r.databaseTables i l d o).task i).ending = some .ok := by
  unfold databaseTables
  unfold tablesFailureOf at h
  cases o with
  | error e => cases h
  | ok ts =>
    have hm : d.checkKey = .ok () := by
      revert h
      cases d.checkKey <;> simp
    dsimp only
    rw [hm]
    dsimp only
    split
    · right
      rw [task_finish_self _ _ (by simpa using hi)]
    · next hts =>
      left
      -- the new group has a member for every table, so its owner's check waits
      rw [groupExit_eq, exitCancel_false, groupResume_eq, if_pos]
      · have hold := task_startGroup_of_lt
          (r.setStore l fun s => { s with tables := KeyMap.put s.tables d ts }) i
          (ts.map (Role.columns l d)) (by simpa using hi)
        rw [task_setTask]
        split <;> simpa [hold] using hend
      · rw [group_setGroup]
        split
        · simp [group_startGroup, List.range'_eq_nil_iff, List.isEmpty_iff.not.1 (by simpa using hts)]
        · simp_all

/-! ## A step of a database task -/

variable {S : LoadSetting} {x : Nat} {th : Bool} {rest : List Event}

/-- A task under the caller with the role of a database task is one, at its start, holding
the answer to its question, or checking its group. -/
theorem LoadInv.database_shape (h : r.LoadInv S) (hrole : (r.task x).role = .database l d) :
    l = 2 ∧ 3 ≤ x ∧ x < r.tasks.size ∧ ((r.task x).phase = .start ∨
      (r.task x).phase = .gotNames (namesAnswer S.source (some d)) ∨
      ∃ g, (r.task x).phase = .grouped g) := by
  have hlt : x < r.tasks.size := by
    by_contra hx
    rw [task_of_size_le r (by omega)] at hrole
    cases hrole
  have hx2 : 2 ≤ x := by
    by_contra hx
    match x, hx with
    | 0, _ => rw [h.top.client.1] at hrole; cases hrole
    | 1, _ => rw [h.top.caller.1] at hrole; cases hrole
    | n + 2, hx => exact hx (by omega)
  have hshape := h.tree.shape x hx2 hlt
  unfold LoadSetting.Shape at hshape
  rw [hrole] at hshape
  exact ⟨hshape.1, hshape.2.1, hlt, hshape.2.2⟩

/-- **A step of a database task at its start or holding its answer, not cancelled**: the
task yields with the source's reply, when its question yields, or takes the source's
answer to its question.  `r₂` is the run as the task has it then: the step taken off the
queue, the task's flags cleared, and the source asked. -/
theorem LoadInv.database_step (h : r.LoadInv S) (rest : List Event)
    (hrole : (r.task x).role = .database 2 d) (hend : (r.task x).ending = none)
    (hth : (th || (r.task x).mustCancel) = false)
    (hph : (r.task x).phase = .start ∨ ∃ o, (r.task x).phase = .gotNames o) :
    ∃ r₂ : Run, r₂.queue = rest ∧
      r₂.tasks = (r.setTask x fun t => { t with mustCancel := false, waitsOn := none }).tasks ∧
      r₂.groups = r.groups ∧
      (((r.task x).phase = .start ∧ (namesReply S.source (some d)).yields = true ∧
          ({ r with queue := rest } : Run).handle (.step x th) =
            (r₂.setTask x fun t => { t with phase := .gotNames (namesAnswer S.source (some d)) }).enqueue
              (.step x false)) ∨
        ((((r.task x).phase = .start ∧ (namesReply S.source (some d)).yields = false) ∨
            ∃ o, (r.task x).phase = .gotNames o) ∧
          ({ r with queue := rest } : Run).handle (.step x th) =
            r₂.databaseTables x 2 d (namesAnswer S.source (some d)))) := by
  obtain ⟨-, hx3, hlt, hshape⟩ := h.database_shape hrole
  have htx : ({ r with queue := rest } : Run).task x = r.task x := rfl
  have hh : ({ r with queue := rest } : Run).handle (.step x th) =
      (({ r with queue := rest } : Run).setTask x fun t => { t with mustCancel := false, waitsOn := none }).resume
        x false (.database 2 d) (r.task x).phase := by
    change Run.stepTask _ x th = _
    rw [stepTask_eq, htx, hend, hth, hrole]
    rfl
  rw [hh]
  generalize hr₁ : ({ r with queue := rest } : Run).setTask x
    (fun t => { t with mustCancel := false, waitsOn := none }) = r₁
  have hq₁ : r₁.queue = rest := by rw [← hr₁]; rfl
  have ht₁ : r₁.tasks = (r.setTask x fun t => { t with mustCancel := false, waitsOn := none }).tasks := by
    rw [← hr₁]; rfl
  have hg₁ : r₁.groups = r.groups := by rw [← hr₁]; rfl
  rcases hph with hp | ⟨o, hp⟩
  · -- at its start the task asks the loader's source, which replies as before the load
    rw [hp]
    simp only [resume, Bool.false_eq_true, ↓reduceIte]
    have hsrc : r₁.sourceOf 2 = S.src := by
      rw [← h.tree.sourceOf_loader h.top.size, ← hr₁]
      unfold sourceOf
      rw [task_setTask, if_neg (by omega)]
      rfl
    have hreply : (r₁.ask S.src (·.askNames (some d)) []).2 = namesReply S.source (some d) := by
      refine ask_namesReply ?_ S.src (some d)
      rw [← hr₁]
      exact h.cache.sources.agree
    have hq₂ : (r₁.ask S.src (·.askNames (some d)) []).1.queue = rest := by simp [hq₁]
    have ht₂ : (r₁.ask S.src (·.askNames (some d)) []).1.tasks = r₁.tasks := by simp
    have hg₂ : (r₁.ask S.src (·.askNames (some d)) []).1.groups = r₁.groups := by simp
    rw [hsrc]
    unfold fetchNames
    generalize r₁.ask S.src (·.askNames (some d)) [] = a at hreply hq₂ ht₂ hg₂
    obtain ⟨r₂, reply⟩ := a
    dsimp only at hreply hq₂ ht₂ hg₂ ⊢
    subst hreply
    refine ⟨r₂, hq₂, ht₂.trans ht₁, hg₂.trans hg₁, ?_⟩
    cases hy : (namesReply S.source (some d)).yields
    · exact .inr ⟨.inl ⟨trivial, rfl⟩, by simp⟩
    · exact .inl ⟨trivial, rfl, by simp⟩
  · -- holding its answer, the task takes it
    have ho : o = namesAnswer S.source (some d) := by
      rcases hshape with hs | hs | ⟨g, hs⟩ <;> rw [hp] at hs <;> cases hs
      rfl
    rw [hp, ho]
    exact ⟨r₁, hq₁, ht₁, hg₁, .inr ⟨.inr ⟨_, rfl⟩, rfl⟩⟩

/-! ## Checking a group -/

/-- **An owner other than the loader fails only with its group's failures** when it checks
its group: the failures the group recorded, of which there is one at least. -/
theorem failed_groupExit {g : Nat} {th : Bool} {f : Failure}
    (hρ : ∀ n s gen, (r.task i).role ≠ .loader n s gen) (hi : i < r.tasks.size)
    (hend : (r.task i).ending = none)
    (hf : ((r.groupExit i g th).task i).ending = some (.failed f)) :
    f = .group (r.group g).errors ∧ (r.group g).errors ≠ [] := by
  have h₃ : Aside none r ((r.exitCancel g th).setGroup g fun x => { x with fut := none }) :=
    ((Aside.refl none r).exitCancel g th).setGroup (by intro; rfl)
  rw [groupExit_eq] at hf
  have herr := h₃.errors g
  have hrole := h₃.role i hi
  have hend₃ := h₃.unended hend
  have hi₃ : i < ((r.exitCancel g th).setGroup g fun x => { x with fut := none }).tasks.size :=
    lt_of_lt_of_le hi h₃.size
  generalize (r.exitCancel g th).setGroup g (fun x => { x with fut := none }) = r₃ at herr hrole hend₃ hi₃ hf
  rw [groupResume_eq] at hf
  split at hf
  · -- the group has live members: the owner waits again, and has not ended
    rw [task_setTask] at hf
    split at hf <;> simp [hend₃] at hf
  · unfold groupEnd at hf
    dsimp only at hf
    split at hf
    · rw [task_finish_self _ _ hi₃] at hf
      cases hf
    · split at hf
      · next hne =>
        split at hf
        · next n s gen hl => exact absurd (hrole ▸ hl) (hρ n s gen)
        · rw [task_finish_self _ _ hi₃] at hf
          cases hf
          rw [herr] at hne ⊢
          exact ⟨rfl, by simpa using hne⟩
      · split at hf
        · next n s gen hl => exact absurd (hrole ▸ hl) (hρ n s gen)
        · rw [task_finish_self _ _ hi₃] at hf
          cases hf

section Answer

variable (rest) (h : r.LoadInv S) (hrole : (r.task x).role = .database 2 d)
  (hend : (r.task x).ending = none) (hth : (th || (r.task x).mustCancel) = false)
include h hrole hend hth

/-- **A task whose question yields takes the answer one turn later**: it holds the
source's answer, and its next step is queued. -/
theorem LoadInv.database_yields (hp : (r.task x).phase = .start)
    (hy : (namesReply S.source (some d)).yields = true) :
    (({ r with queue := rest } : Run).handle (.step x th)).queue = rest ++ [.step x false] ∧
      ((({ r with queue := rest } : Run).handle (.step x th)).task x).phase =
        .gotNames (namesAnswer S.source (some d)) ∧
      ((({ r with queue := rest } : Run).handle (.step x th)).task x).ending = none := by
  obtain ⟨-, -, hlt, -⟩ := h.database_shape hrole
  obtain ⟨r₂, hq₂, ht₂, -, ⟨-, -, heq⟩ | ⟨hph, -⟩⟩ :=
    h.database_step rest hrole hend hth (.inl hp)
  · have ht := task_eq_of_tasks ht₂ x
    have hlt₂ : x < r₂.tasks.size := by rw [ht₂]; simpa using hlt
    rw [heq]
    refine ⟨by simp [hq₂], ?_, ?_⟩
    · rw [task_enqueue, task_setTask_self _ _ hlt₂]
    · rw [task_enqueue, task_setTask_self _ _ hlt₂, ht, task_setTask_self _ _ hlt]
      exact hend
  · rcases hph with ⟨-, hy'⟩ | ⟨o, hp'⟩
    · rw [hy] at hy'
      cases hy'
    · rw [hp] at hp'
      cases hp'

/-- **A task whose tables fail takes the failure at once**, unless its question yields: it
fails with the failure of its tables, and what its callbacks queue follows. -/
theorem LoadInv.database_fails {lf : LoadFailure} (hlf : tablesFailure S.source d = some lf)
    (hp : ((r.task x).phase = .start ∧ (namesReply S.source (some d)).yields = false) ∨
      ∃ o, (r.task x).phase = .gotNames o) :
    (({ r with queue := rest } : Run).handle (.step x th)).queue =
        rest ++ (r.task x).callbacks.map (Callback.event x) ∧
      ((({ r with queue := rest } : Run).handle (.step x th)).task x).ending =
        some (.failed (.raise lf)) := by
  obtain ⟨-, -, hlt, -⟩ := h.database_shape hrole
  obtain ⟨r₂, hq₂, ht₂, -, ⟨hp', hy, -⟩ | ⟨-, heq⟩⟩ :=
    h.database_step rest hrole hend hth (hp.imp And.left id)
  · rcases hp with ⟨-, hy'⟩ | ⟨o, hp''⟩
    · rw [hy] at hy'
      cases hy'
    · rw [hp'] at hp''
      cases hp''
  · have ht := task_eq_of_tasks ht₂ x
    have hlt₂ : x < r₂.tasks.size := by rw [ht₂]; simpa using hlt
    rw [heq, databaseTables_of_failure hlf]
    refine ⟨?_, by rw [task_finish_self _ _ hlt₂]⟩
    rw [finish_queue, hq₂, ht, task_setTask_self _ _ hlt]

/-- **A task whose tables do not fail does not fail with them**: it ends well, or goes on. -/
theorem LoadInv.database_goes_on (hlf : tablesFailure S.source d = none)
    (hp : ((r.task x).phase = .start ∧ (namesReply S.source (some d)).yields = false) ∨
      ∃ o, (r.task x).phase = .gotNames o) :
    ((({ r with queue := rest } : Run).handle (.step x th)).task x).ending = none ∨
      ((({ r with queue := rest } : Run).handle (.step x th)).task x).ending = some .ok := by
  obtain ⟨-, -, hlt, -⟩ := h.database_shape hrole
  obtain ⟨r₂, -, ht₂, -, ⟨hp', hy, -⟩ | ⟨-, heq⟩⟩ :=
    h.database_step rest hrole hend hth (hp.imp And.left id)
  · rcases hp with ⟨-, hy'⟩ | ⟨o, hp''⟩
    · rw [hy] at hy'
      cases hy'
    · rw [hp'] at hp''
      cases hp''
  · have ht := task_eq_of_tasks ht₂ x
    have hlt₂ : x < r₂.tasks.size := by rw [ht₂]; simpa using hlt
    rw [heq]
    exact ending_databaseTables hlf (by rw [ht, task_setTask_self _ _ hlt]; exact hend) hlt₂

end Answer

/-- **How a database task's step can fail it**: with the failure of its tables, from its
start or holding its answer, or with the failures its group recorded, when it checks its
group. -/
theorem LoadInv.database_failed (h : r.LoadInv S) (rest : List Event)
    (hrole : (r.task x).role = .database 2 d) (hend : (r.task x).ending = none) {f : Failure}
    (hf : ((({ r with queue := rest } : Run).handle (.step x th)).task x).ending = some (.failed f)) :
    (∃ lf, f = .raise lf ∧ tablesFailure S.source d = some lf) ∨
      ∃ g, (r.task x).phase = .grouped g ∧ f = .group (r.group g).errors ∧ (r.group g).errors ≠ [] := by
  obtain ⟨-, -, hlt, hshape⟩ := h.database_shape hrole
  have htx : ({ r with queue := rest } : Run).task x = r.task x := rfl
  have hh : ({ r with queue := rest } : Run).handle (.step x th) =
      (({ r with queue := rest } : Run).setTask x fun t => { t with mustCancel := false, waitsOn := none }).resume
        x (th || (r.task x).mustCancel) (.database 2 d) (r.task x).phase := by
    change Run.stepTask _ x th = _
    rw [stepTask_eq, htx, hend, hrole]
    rfl
  have hlt₁ : x < (({ r with queue := rest } : Run).setTask x
      fun t => { t with mustCancel := false, waitsOn := none }).tasks.size := by simpa using hlt
  -- a step from the start or holding the answer: cancelled, or the answer's failure
  have hanswer : ((r.task x).phase = .start ∨ ∃ o, (r.task x).phase = .gotNames o) →
      ∃ lf, f = .raise lf ∧ tablesFailure S.source d = some lf := fun hp => by
    cases hth : (th || (r.task x).mustCancel)
    · cases hp' : (r.task x).phase with
      | start =>
        cases hy : (namesReply S.source (some d)).yields
        · cases hlf : tablesFailure S.source d with
          | some lf =>
            rw [(h.database_fails rest hrole hend hth hlf (.inl ⟨hp', hy⟩)).2] at hf
            cases hf
            exact ⟨lf, rfl, rfl⟩
          | none =>
            rcases h.database_goes_on rest hrole hend hth hlf (.inl ⟨hp', hy⟩) with he | he <;>
              rw [he] at hf <;> cases hf
        · rw [(h.database_yields rest hrole hend hth hp' hy).2.2] at hf
          cases hf
      | gotNames o =>
        cases hlf : tablesFailure S.source d with
        | some lf =>
          rw [(h.database_fails rest hrole hend hth hlf (.inr ⟨o, hp'⟩)).2] at hf
          cases hf
          exact ⟨lf, rfl, rfl⟩
        | none =>
          rcases h.database_goes_on rest hrole hend hth hlf (.inr ⟨o, hp'⟩) with he | he <;>
            rw [he] at hf <;> cases hf
      | _ => rcases hp with hp | ⟨o, hp⟩ <;> rw [hp] at hp' <;> cases hp'
    · rw [hh, hth] at hf
      rcases hp with hp | ⟨o, hp⟩ <;> rw [hp] at hf <;> simp only [resume, ↓reduceIte] at hf <;>
        rw [task_finish_self _ _ hlt₁] at hf <;> cases hf
  rcases hshape with hp | hp | ⟨g, hp⟩
  · exact .inl (hanswer (.inl hp))
  · exact .inl (hanswer (.inr ⟨_, hp⟩))
  · -- checking its group: only the group's failures
    rw [hh, hp] at hf
    have hlt₀ : x < ({ r with queue := rest } : Run).tasks.size := hlt
    have hg := failed_groupExit
      (by rw [task_setTask_self _ _ hlt₀, htx, hrole]; exact fun _ _ _ h => by cases h)
      hlt₁ (by rw [task_setTask_self _ _ hlt₀, htx]; exact hend) hf
    exact .inr ⟨g, hp, hg⟩

/-! ## What a turn under the caller queues -/

/-- **A step of a task under the loader queues** the task's own next step, the first steps
of tasks it starts, the note of its end to the group it is a member of, if it had not
ended, and the cancels of the live members of the group it checks. -/
theorem LoadInv.appended_step (h : r.LoadInv S) (hq : r.queue = .step x th :: rest) (hx : 3 ≤ x) :
    Appends (fun y => y = .step x false ∨ (∃ w, r.tasks.size ≤ w ∧ y = .step w false) ∨
        (∃ g, r.Member g x ∧ (r.task x).ending = none ∧ y = .childDone g x) ∨
        ∃ g, (r.task x).phase = .grouped g ∧ ∃ m ∈ (r.group g).live, y = .step m true)
      ({ r with queue := rest } : Run) (({ r with queue := rest } : Run).handle (.step x th)) := by
  by_cases hlt : x < r.tasks.size
  swap
  · have hnone : ({ r with queue := rest } : Run).handle (.step x th) = { r with queue := rest } :=
      stepTask_of_size_le _ (by simpa using hlt) th
    rw [hnone]
    exact .refl _ _
  by_cases hend : (r.task x).ending = none
  swap
  · -- the step of a task that has ended does nothing
    have hnone : ({ r with queue := rest } : Run).handle (.step x th) = { r with queue := rest } :=
      stepTask_of_ended (r := { r with queue := rest }) (Option.isSome_iff_ne_none.2 hend) th
    rw [hnone]
    exact .refl _ _
  have hshape := h.tree.shape x (by omega) hlt
  have hρ : ∀ n s rf, (r.task x).role ≠ .caller n s rf := fun n s rf hρ => by
    unfold LoadSetting.Shape at hshape
    rw [hρ] at hshape
    exact hshape
  have hρ' : (r.task x).role ≠ .client := fun hρ => by
    unfold LoadSetting.Shape at hshape
    rw [hρ] at hshape
    exact hshape
  have h' := h.handle hq
  refine (appends_stepTask ({ r with queue := rest } : Run) x th hρ hρ').mono fun y hy => ?_
  rcases hy with ((rfl | hw) | ⟨cb, hcb, rfl⟩) | ⟨g, hg, m, hm, f, hwf, hp, w, hw, rfl⟩
  · exact .inl rfl
  · exact .inr (.inl hw)
  · -- the task's one callback notes its end to its group
    have hlt' : x < (({ r with queue := rest } : Run).handle (.step x th)).tasks.size :=
      lt_of_lt_of_le hlt (size_handle (r := { r with queue := rest }) _)
    obtain ⟨g, -, hm⟩ := h'.tree.sub x hx hlt'
    have hm' := hm
    unfold Member at hm'
    change cb ∈ ((({ r with queue := rest } : Run).handle (.step x th)).task x).callbacks at hcb
    rw [hm', List.mem_singleton] at hcb
    have hold : r.Member g x :=
      (callbacks_handle (r := { r with queue := rest }) (.step x th) hlt).member hm'
    exact .inr (.inr (.inl ⟨g, hold, hend, by rw [hcb]; rfl⟩))
  · -- a live member waits alone on what it waits on, so its cancel resumes it
    have hg' := (h.tree.grouped x g (by omega) hg).1
    have hown := (h.tree.owner g hg').1
    have hlive := ((h.tree.live g hg').2 m hm).2.1
    have hwait := h.tree.waitsOn m f (by omega) hwf hp
    change w ∈ (r.fut f).waiters at hw
    rw [hwait, List.mem_singleton] at hw
    exact .inr (.inr (.inr ⟨g, hg, m, hm, by rw [hw]⟩))

/-- The note at the front of the queue is of a member of a group, and the member has ended. -/
theorem LoadInv.front_childDone (h : r.LoadInv S) {g c : Nat}
    (hq : r.queue = .childDone g c :: rest) :
    g < r.groups.size ∧ c < r.tasks.size ∧ r.Member g c ∧ (r.task c).ending.isSome :=
  h.tree.childDone g c (by rw [hq]; exact List.mem_cons_self)

/-- A note at the front of the queue is of a group that exists. -/
theorem LoadInv.front_groups (h : r.LoadInv S) {e : Event} (hq : r.queue = e :: rest) :
    ∀ g c, e = .childDone g c → g < r.groups.size := fun g c hgc => by
  subst hgc
  exact (h.front_childDone hq).1

/-- **The note of a member's end queues steps of the group's owner and of its live members
only**: the owner's wake, and the cancels of the group's first failure. -/
theorem LoadInv.appended_note (h : r.LoadInv S) {g c : Nat} (hq : r.queue = .childDone g c :: rest) :
    Appends (fun y => ∃ w th, y = .step w th ∧ (w = (r.group g).owner ∨ w ∈ (r.group g).live))
      ({ r with queue := rest } : Run) (({ r with queue := rest } : Run).handle (.childDone g c)) := by
  have hg : g < r.groups.size := (h.front_childDone hq).1
  obtain ⟨hown, -, -⟩ := h.tree.owner g hg
  refine (appends_childDone _ g c).mono fun y hy => ?_
  rcases hy with ⟨f, hf, hp, w, hw, rfl⟩ | ⟨m, hm, f, hwf, hp, w, hw, rfl⟩
  · have hw' : w ∈ (r.fut f).waiters := hw
    rw [h.tree.groupFut g hg f hf hp, List.mem_singleton] at hw'
    exact ⟨w, false, rfl, .inl hw'⟩
  · -- a cancelled task is the only waiter of what it waits on
    have hm2 : 2 ≤ m := by
      rcases List.mem_cons.1 hm with rfl | hm
      · exact hown
      · have := ((h.tree.live g hg).2 m hm).2.1
        omega
    have hw' : w ∈ (r.fut f).waiters := hw
    rw [h.tree.waitsOn m f hm2 hwf hp, List.mem_singleton] at hw'
    subst hw'
    exact ⟨w, true, rfl, List.mem_cons.1 hm⟩

/-- **The note of a member's end that is no failure queues nothing while another member is
live**: the group's outcome stays pending, and nothing is aborted. -/
theorem queue_childDone_of_live {g c c' : Nat} (hg : g < r.groups.size)
    (hc' : c' ∈ (r.group g).live) (hne : c' ≠ c)
    (hok : ∀ fl, (r.task c).ending ≠ some (.failed fl)) : (r.childDone g c).queue = r.queue := by
  have hnl : r.noteLive g c = r.setGroup g fun x => { x with live := x.live.erase c } := by
    rcases noteLive_cases_of_lt hg (c := c) with ⟨hl, -⟩ | ⟨f, -, hnil, -⟩
    · exact hl
    · have hmem := (List.mem_erase_of_ne hne).2 hc'
      rw [hnil] at hmem
      cases hmem
  rw [childDone_eq, hnl]
  unfold noteFailure
  split
  · next fl hfl => exact absurd hfl (hok fl)
  · rfl

end Run

end SqlAssist.Schema
