import SqlAssist.Proofs.Schema.Race
import SqlAssist.Proofs.Schema.LoaderTurns

/-!
# The first failure a load meets

A load whose source fails somewhere fails with one failure, and this module says which,
up to the questions for the columns.  A load asks in rounds: first for the databases, then
for the tables of each database, in the order of the databases.  A question that fails at
once fails in the round it is asked and one that yields a round later, and of two that
fail in one round the earlier asked fails first.  So the first failure is that of the
databases; else the failure of the tables of the first database whose question fails at
once; else that of the first database whose tables fail (`firstLoadFailure`).

A lone load meets it through three stages (`Stamped.Course`): the loader asks for the
databases (`Run.Asking`); the database tasks race (`Stamped.Race`) until the note of the
first failing database's task; and the loader's group, having recorded that failure
first, keeps it while the run drains (`Run.Settling`).

Nothing of the kind holds for the questions for the columns.  A database task whose
column task fails waits for its other column tasks before it ends, so the loader's group
can record the failure of a later database first
(`World.load_reports_later_columns_failure`).

## Main statements

* `firstTablesFailure_spec`: the first tables failure is that of a first failing database.
* `Stamped.Course.turn`: every turn keeps a load on its course.
* `World.load_first_failure`: a lone load whose source fails before any question for
  columns fails with the first such failure.
-/

namespace SqlAssist.Schema

/-! ## The first failure -/

/-- The tables failure a load from the source `s` meets first among the databases `dbs`:
that of the first database whose question for its tables fails at once, else that of the
first database whose tables fail. -/
def firstTablesFailure (s : Option Source) (dbs : List Value) : Option LoadFailure :=
  match dbs.find? (fun d => !tablesYield s d && (tablesFailure s d).isSome) with
  | some d => tablesFailure s d
  | none => (dbs.find? fun d => (tablesFailure s d).isSome).bind (tablesFailure s)

/-- The failure a load from the source `s` meets first before it asks for columns: that of
its question for the databases, else the first failure among the tables. -/
def firstLoadFailure (s : Option Source) : Option LoadFailure :=
  match namesAnswer s none with
  | .error e => some (.stage (LoadError.ofFetch .databases e))
  | .ok dbs => firstTablesFailure s dbs

/-- **The first tables failure is that of a first failing database.** -/
theorem firstTablesFailure_spec {s : Option Source} {dbs : List Value} {f : LoadFailure}
    (h : firstTablesFailure s dbs = some f) :
    ∃ k, FirstFailing s dbs k ∧ ∃ hk : k < dbs.length, tablesFailure s dbs[k] = some f := by
  unfold firstTablesFailure at h
  split at h
  · -- a question fails at once: the first database whose question does
    next d hd =>
    obtain ⟨hp, k, hk, rfl, hbefore⟩ := List.find?_eq_some_iff_getElem.1 hd
    simp only [Bool.and_eq_true, Bool.not_eq_eq_eq_not, Bool.not_true] at hp
    refine ⟨k, ⟨hk, hp.2, fun i hi hik hy => ?_, fun hy => ?_⟩, hk, h⟩
    · simpa [hy, hp.1] using hbefore i hik
    · rw [hp.1] at hy
      cases hy
  · -- every failing question yields: the first database whose tables fail
    next hnone =>
    obtain ⟨d, hd, hf⟩ := Option.bind_eq_some_iff.1 h
    obtain ⟨hp, k, hk, rfl, hbefore⟩ := List.find?_eq_some_iff_getElem.1 hd
    refine ⟨k, ⟨hk, hp, fun i hi hik _ => ?_, fun _ i hi hfi => ?_⟩, hk, hf⟩
    · simpa using hbefore i hik
    · simpa [hfi] using List.find?_eq_none.1 hnone dbs[i] (List.getElem_mem hi)

namespace Run

variable {S : LoadSetting} {r : Run} {f : LoadFailure} {e : Event} {rest : List Event}

/-! ## The loader asks for the databases -/

/-- **The loader asks for the databases**: it is at its start or holds the answer of its
question, not cancelled, and its step is the one event queued. -/
structure Asking (S : LoadSetting) (r : Run) : Prop where
  inv : r.LoadInv S
  queue : r.queue = [.step 2 false]
  unended : (r.task 2).ending = none
  calm : (r.task 2).mustCancel = false
  phase : (r.task 2).phase = .start ∨ ∃ o, (r.task 2).phase = .gotNames o

theorem lone_asking (w : World) (name src : String) (refresh : Bool) :
    Asking (.lone w name src refresh) (lone w name src refresh) :=
  ⟨lone_loadInv, rfl, rfl, rfl, .inl rfl⟩

/-- **A question for the databases that yields** leaves the loader asking, holding the
answer. -/
theorem Asking.yields (h : Asking S r) {r₂ : Run} (hq₂ : r₂.queue = [])
    (ht₂ : r₂.tasks = (r.setTask 2 fun t => { t with mustCancel := false, waitsOn := none }).tasks)
    (heq : ({ r with queue := [] } : Run).handle (.step 2 false) =
      (r₂.setTask 2 fun t => { t with phase := .gotNames (namesAnswer S.source none) }).enqueue
        (.step 2 false)) :
    Asking S (({ r with queue := [] } : Run).handle (.step 2 false)) := by
  have hlt : 2 < r.tasks.size := h.inv.top.size
  have h2 : r₂.task 2 = { r.task 2 with mustCancel := false, waitsOn := none } :=
    (task_eq_of_tasks ht₂ 2).trans (task_setTask_self _ _ hlt)
  have hlt₂ : 2 < r₂.tasks.size := by rw [ht₂, setTask_size]; exact hlt
  have hinv := h.inv.handle h.queue
  rw [heq] at hinv ⊢
  refine ⟨hinv, by simp [hq₂], ?_, ?_, .inr ⟨namesAnswer S.source none, ?_⟩⟩ <;>
    rw [task_enqueue, task_setTask_self _ _ hlt₂, h2]
  exact h.unended

/-- **A question for the databases that fails** fails the loader with the failure of the
databases. -/
theorem Asking.databases_failed (h : Asking S r) {r₂ : Run} {e : FetchError}
    (ht₂ : r₂.tasks = (r.setTask 2 fun t => { t with mustCancel := false, waitsOn := none }).tasks)
    (heq : ({ r with queue := [] } : Run).handle (.step 2 false) = r₂.loaderDatabases 2 (.error e)) :
    ((({ r with queue := [] } : Run).handle (.step 2 false)).task 2).ending =
      some (.failed (.raise (.stage (LoadError.ofFetch .databases e)))) := by
  have hlt₂ : 2 < r₂.tasks.size := by
    rw [ht₂, setTask_size]
    exact h.inv.top.size
  rw [heq]
  unfold loaderDatabases loadFailed
  dsimp only
  rw [task_finish_self _ _ (by simpa using hlt₂)]

/-! ## The loader's group has recorded the first failure -/

/-- **The loader's group has recorded the failure `f` first**: the loader waits on the
group, or has failed with `f`. -/
structure Settling (S : LoadSetting) (f : LoadFailure) (r : Run) : Prop where
  inv : r.LoadInv S
  loader : ((r.task 2).ending = none ∧ (r.task 2).phase = .grouped 0 ∧
      ∃ fs, (r.group 0).errors = .raise f :: fs) ∨
    (r.task 2).ending = some (.failed (.raise f))

/-- **A turn keeps the first failure recorded.**  The loader's group only appends to what
it recorded, and the loader's check of the group, once no member is live, fails the loader
with the first failure recorded. -/
theorem Settling.handle (h : Settling S f r) (hq : r.queue = e :: rest) :
    Settling S f (({ r with queue := rest } : Run).handle e) := by
  refine ⟨h.inv.handle hq, ?_⟩
  have hlt : 2 < r.tasks.size := h.inv.top.size
  have htx : ({ r with queue := rest } : Run).task 2 = r.task 2 := rfl
  rcases h.loader with ⟨hend, hph, fs, herr⟩ | hfail
  · -- the group keeps the failure it recorded first
    obtain ⟨fs', herr'⟩ : ∃ fs', ((({ r with queue := rest } : Run).handle e).group 0).errors =
        .raise f :: fs' := by
      rcases errors_handle (r := { r with queue := rest }) e (h.inv.front_groups hq) 0 with
        hsame | ⟨c, -, happ⟩
      · exact ⟨fs, hsame.trans herr⟩
      · refine ⟨fs ++ endingFailures (r.task c).ending, happ.trans ?_⟩
        change (r.group 0).errors ++ endingFailures (r.task c).ending = _
        rw [herr, List.cons_append]
    by_cases hst : ∃ th, e = .step 2 th
    · -- the loader checks its group: it waits again, or fails with the first failure
      obtain ⟨th, rfl⟩ := hst
      have hstep : ({ r with queue := rest } : Run).handle (.step 2 th) =
          (({ r with queue := rest } : Run).setTask 2 fun t =>
            { t with mustCancel := false, waitsOn := none }).groupExit 2 0
              (th || (r.task 2).mustCancel) := by
        change Run.stepTask _ 2 th = _
        rw [stepTask_eq, htx, hend, hph, if_neg (by simp)]
        exact resume_grouped _ _ _ _ _
      rw [hstep] at herr' ⊢
      have hlt₀ : 2 < ({ r with queue := rest } : Run).tasks.size := hlt
      generalize hr₁ : ({ r with queue := rest } : Run).setTask 2
        (fun t => { t with mustCancel := false, waitsOn := none }) = r₁ at herr' ⊢
      have hlt₁ : 2 < r₁.tasks.size := by rw [← hr₁, setTask_size]; exact hlt₀
      have hρ₁ : (r₁.task 2).role = .loader S.name S.src S.gen := by
        rw [← hr₁, task_setTask_self _ _ hlt₀, htx]
        exact h.inv.tree.loader_role hlt
      have hend₁ : (r₁.task 2).ending = none := by
        rw [← hr₁, task_setTask_self _ _ hlt₀, htx]
        exact hend
      have herr₁ : (r₁.group 0).errors = .raise f :: fs := by
        rw [← hr₁, group_setTask]
        exact herr
      exact (loader_groupExit hρ₁ hlt₁ hend₁ herr₁).elim
        (fun h' => .inl ⟨h'.1, h'.2, fs', herr'⟩) .inr
    · -- the loader is not stepped: it keeps waiting on its group
      have hne : some 2 ≠ Event.stepped e := fun h2 => hst (Event.eq_step_of_stepped h2.symm)
      obtain ⟨hend', hph'⟩ := unmoved_handle (r := { r with queue := rest }) e hlt hne
      exact .inl ⟨hend'.trans hend, hph'.trans hph, fs', herr'⟩
  · -- the loader has failed, and an ended task keeps its ending
    refine .inr ?_
    rcases ending_handle (r := { r with queue := rest }) e 2 with hsame | ⟨-, hnone⟩
    · exact hsame.trans hfail
    · rw [htx, hfail] at hnone
      cases hnone

theorem Settling.turn (h : Settling S f r) : Settling S f r.turn := by
  unfold Run.turn
  split
  · exact h
  · next e rest hq => exact h.handle hq

/-- **A run that has drained with the first failure recorded reports it.** -/
theorem Settling.outcome (h : Settling S f r) (hq : r.queue = []) :
    Ending.outcome (r.task 1).ending = .failed f := by
  obtain ⟨e, h1, h2, -⟩ := h.inv.settled hq
  rcases h.loader with ⟨hend, -⟩ | hfail
  · rw [hend] at h2
    cases h2
  · rw [h1, ← h2, hfail]
    rfl

end Run

namespace Stamped

/-! ## The race starts -/

/-- The first steps of the tasks `3, …, 3 + n - 1`, stamped `σ`: the one of task `3 + i`
is its only step. -/
theorem filter_starts {n i σ : Nat} (hi : i < n) :
    (((List.range' 3 n).map fun c => Event.step c false).map fun y => (y, σ)).filter
      (fun p => p.1.isStepOf (3 + i)) = [(.step (3 + i) false, σ)] := by
  have hone : (List.range' 3 n).filter (fun c => c == 3 + i) = [3 + i] := by
    rw [List.filter_beq, List.count_eq_one_of_mem List.nodup_range'
      (List.mem_range'_1.2 ⟨by omega, by omega⟩)]
    rfl
  rw [List.map_map, List.filter_map]
  exact congrArg (List.map _) hone

/-- Of two of those first steps, that of the earlier task comes first. -/
theorem sublist_starts {n a b : Nat} (hab : a < b) (hb : b < n) :
    List.Sublist [Event.step (3 + a) false, .step (3 + b) false]
      ((List.range' 3 n).map fun c => .step c false) := by
  have hsplit : List.range' 3 n =
      List.range' 3 (a + 1) ++ List.range' (3 + 1 * (a + 1)) (n - (a + 1)) := by
    rw [List.range'_append]
    congr 1
    omega
  have hsub : List.Sublist [3 + a, 3 + b] (List.range' 3 n) := by
    rw [hsplit]
    exact (List.singleton_sublist.2 (List.mem_range'_1.2 ⟨by omega, by omega⟩)).append
      (List.singleton_sublist.2 (List.mem_range'_1.2 ⟨by omega, by omega⟩))
  exact hsub.map fun c => Event.step c false

namespace Race

variable {R : Nat} {dbs : List Value} {S : LoadSetting} {k : Nat} {s : Stamped}
  {f : LoadFailure} {rest : List Event} {h : Nat}

/-- **The race starts** when the loader takes the databases `dbs`: the task of the `i`-th
database is task `3 + i`, at its start and a member of the loader's new group `0`, and the
first steps of these tasks are all that is queued, in the order of the databases, in the
round after the loader's step. -/
theorem start (hA : Run.Asking S s.run) (ho : s.Ordered) (hh : s.stamps = [h])
    (hk : FirstFailing S.source dbs k) {r₂ : Run} (hq₂ : r₂.queue = [])
    (ht₂ : r₂.tasks = (s.run.setTask 2 fun t => { t with mustCancel := false, waitsOn := none }).tasks)
    (hg₂ : r₂.groups = s.run.groups)
    (heq : ({ s.run with queue := [] } : Run).handle (.step 2 false) =
      r₂.loaderDatabases 2 (.ok dbs)) :
    Race (h + 1) dbs S k s.turn := by
  have hkn := hk.lt
  obtain ⟨hsize₀, hgroups₀⟩ := hA.inv.tree.fresh hA.unended hA.phase
  have hlt : 2 < s.run.tasks.size := by omega
  have h2 : r₂.task 2 = { s.run.task 2 with mustCancel := false, waitsOn := none } :=
    (Run.task_eq_of_tasks ht₂ 2).trans (Run.task_setTask_self _ _ hlt)
  have hs₂ : r₂.tasks.size = 3 := by rw [ht₂, Run.setTask_size, hsize₀]
  have hgs₂ : r₂.groups.size = 0 := by rw [hg₂, hgroups₀]
  -- the loader's group of database tasks
  have hne : dbs ≠ [] := List.ne_nil_of_length_pos (by omega)
  obtain ⟨hq', hsize', hgsize', hend', hph', hnew', herr'⟩ :=
    Run.loaderDatabases_ok (r := r₂) (by omega) hne
  rw [hq₂, List.nil_append, hs₂] at hq'
  rw [hs₂] at hsize' hnew'
  rw [hgs₂] at hgsize' hph' hnew' herr'
  have hnew : (({ s.run with queue := [] } : Run).handle (.step 2 false)).queue =
      [] ++ (List.range' 3 dbs.length).map fun c => .step c false := by
    rw [heq, hq', List.nil_append]
  have hrun : s.turn.run = r₂.loaderDatabases 2 (.ok dbs) := by
    rw [turn_eq hA.queue hh hnew, heq]
  have hmarked : s.turn.marked =
      ((List.range' 3 dbs.length).map fun c => Event.step c false).map fun y => (y, h + 1) := by
    rw [marked_turn hA.queue hh rfl hnew]
    rfl
  have hinv := hA.inv.handle hA.queue
  rw [heq] at hinv
  refine
    { inv := hrun ▸ hinv
      ordered := ho.turn hA.queue hh hnew
      loader := ?_
      unrecorded := ?_
      size := ?_
      databases := fun i hi => ?_
      others := fun c g hc hm => ?_
      events := fun p hp => ?_
      recorded := fun g hg herr => ?_
      raised := fun i hi lf hx => ?_
      chains := fun i hi lf _ => ?_
      lockstep := fun i hi _ hki _ _ => ?_ }
  · rw [hrun, hend', hph', h2]
    exact ⟨hA.unended, rfl⟩
  · rw [hrun]
    exact herr'
  · rw [hrun]
    exact hsize'.ge
  · rw [hrun]
    exact ⟨by rw [hnew' i hi], by unfold Run.Member; rw [hnew' i hi]⟩
  · -- the tasks the loader started are all database tasks
    rw [hrun] at hm
    have := (hinv.tree.member g c hm).2.1
    omega
  · -- every first step is in the round after the loader's
    rw [hmarked] at hp
    simp only [List.map_map, List.mem_map, Function.comp, List.mem_range'_1] at hp
    obtain ⟨c, hc, rfl⟩ := hp
    exact ⟨le_rfl, hc.1, fun h' => absurd hc.2 (by omega)⟩
  · -- the loader's group is the only group
    rw [hrun, Run.group_of_size_le _
      (show (r₂.loaderDatabases 2 (.ok dbs)).groups.size ≤ g by omega)] at herr
    exact absurd rfl herr
  · rw [hrun, hnew' i hi] at hx
    cases hx
  · refine .start ?_ ?_ ?_
    · rw [hrun, hnew' i hi]
    · rw [hrun, hnew' i hi]
    · rw [hmarked]
      exact filter_starts hi
  · -- two database tasks at their start, the earlier one's step queued first
    unfold Ahead
    rw [hrun, hnew' i hi, hnew' k hkn]
    refine ⟨le_rfl, fun _ => ?_⟩
    rw [hq']
    exact sublist_starts hki hi

/-- While the race is on, an event is queued: the first failing database's task goes on. -/
theorem queue_ne_nil (hr : Race R dbs S k s) (hkn : k < dbs.length)
    (hfk : tablesFailure S.source dbs[k] = some f) : s.run.queue ≠ [] := fun hq => by
  have hmem := (List.of_mem_zip (hr.chains k hkn f hfk).mem).1
  rw [hq] at hmem
  cases hmem

/-- **The race ends with the note of the first failing database's task**: its failure is
the first the loader's group records. -/
theorem settle (hr : Race R dbs S k s) (hkn : k < dbs.length)
    (hfk : tablesFailure S.source dbs[k] = some f)
    (hq : s.run.queue = .childDone 0 (3 + k) :: rest) :
    Run.Settling S f (({ s.run with queue := rest } : Run).handle (.childDone 0 (3 + k))) := by
  have hsome := (hr.inv.front_childDone hq).2.2.2
  have hended : (s.run.task (3 + k)).ending = some (.failed (.raise f)) := by
    cases hr.chains k hkn f hfk with
    | start hend _ _ => simp [hend] at hsome
    | waiting _ hend _ _ => simp [hend] at hsome
    | ended hend _ => exact hend
  obtain ⟨hg0, -⟩ := hr.loaderGroup
  have hsize := hr.size
  -- the loader is not stepped, so it still waits on its group
  obtain ⟨hend, hph⟩ := Run.unmoved_handle (r := { s.run with queue := rest })
    (.childDone 0 (3 + k)) (show 2 < s.run.tasks.size by omega) (by simp [Run.Event.stepped])
  refine ⟨hr.inv.handle hq, .inl ⟨hend.trans hr.loader.1, hph.trans hr.loader.2, [], ?_⟩⟩
  · -- the group had recorded nothing, and records the task's failure
    change (((({ s.run with queue := rest } : Run).childDone 0 (3 + k)).group 0).errors = _)
    rw [Run.errors_childDone _ (show 0 < ({ s.run with queue := rest } : Run).groups.size from hg0),
      if_pos rfl]
    change (s.run.group 0).errors ++ Run.endingFailures (s.run.task (3 + k)).ending = _
    rw [hr.unrecorded, hended]
    rfl

end Race

/-! ## The course of a load -/

variable {S : LoadSetting} {f : LoadFailure} {s : Stamped}

/-- **Where a load whose first failure is `f` stands**: the loader asks for the databases;
the database tasks race, `k` the first failing database; or the loader's group has
recorded `f` first. -/
inductive Course (S : LoadSetting) (f : LoadFailure) (s : Stamped) : Prop
  | asking : Run.Asking S s.run → s.Ordered → Course S f s
  | race (R : Nat) (dbs : List Value) (k : Nat) (hk : k < dbs.length) :
      FirstFailing S.source dbs k → tablesFailure S.source dbs[k] = some f →
      Race R dbs S k s → Course S f s
  | settling : Run.Settling S f s.run → Course S f s

/-- A lone load starts asking, its step stamped in round `0`. -/
theorem Course.lone (w : World) (name src : String) (f : LoadFailure) :
    Course (.lone w name src false) f ⟨Run.lone w name src false, [0], 0⟩ :=
  .asking (Run.lone_asking w name src false) ⟨rfl, List.pairwise_singleton _ _, by simp, by simp⟩

/-- **The loader's turn while it asks**: the loader asks again, fails with the failure of
the databases, or starts the race. -/
theorem Course.asking_turn (hf : firstLoadFailure S.source = some f) (hA : Run.Asking S s.run)
    (ho : s.Ordered) : Course S f s.turn := by
  obtain ⟨h, hh⟩ : ∃ h, s.stamps = [h] :=
    List.length_eq_one_iff.1 (by rw [ho.length, hA.queue]; rfl)
  have hrun : s.turn.run = ({ s.run with queue := [] } : Run).handle (.step 2 false) := by
    rw [turn_run]
    unfold Run.turn
    rw [hA.queue]
  obtain ⟨r₂, hq₂, ht₂, hg₂, hstep⟩ :=
    hA.inv.loader_step [] hA.unended
      (show (false || (s.run.task 2).mustCancel) = false by simp [hA.calm]) hA.phase
  rcases hstep with ⟨-, -, heq⟩ | ⟨-, heq⟩
  · -- the question yields: the loader asks again, holding the answer
    have hnew : (({ s.run with queue := [] } : Run).handle (.step 2 false)).queue =
        [] ++ [.step 2 false] := by
      rw [heq]
      simp [hq₂]
    exact .asking (by rw [hrun]; exact hA.yields hq₂ ht₂ heq) (ho.turn hA.queue hh hnew)
  · cases hans : namesAnswer S.source none with
    | error e =>
      -- the question for the databases fails, and the loader with it
      have hfe : f = .stage (LoadError.ofFetch .databases e) := by
        simp only [firstLoadFailure, hans, Option.some.injEq] at hf
        exact hf.symm
      rw [hans] at heq
      refine .settling ⟨by rw [hrun]; exact hA.inv.handle hA.queue, .inr ?_⟩
      rw [hrun, hfe]
      exact hA.databases_failed ht₂ heq
    | ok dbs =>
      -- the loader starts the race of the database tasks
      rw [hans] at heq
      have htf : firstTablesFailure S.source dbs = some f := by
        simpa [firstLoadFailure, hans] using hf
      obtain ⟨k, hk, hkn, hfk⟩ := firstTablesFailure_spec htf
      exact .race (h + 1) dbs k hkn hk hfk (Race.start hA ho hh hk hq₂ ht₂ hg₂ heq)

/-- **A turn of the race** keeps it on, or is the note of the first failing database's
task, after which the loader's group has recorded its failure first. -/
theorem Course.race_turn {R : Nat} {dbs : List Value} {k : Nat} (hkn : k < dbs.length)
    (hk : FirstFailing S.source dbs k) (hfk : tablesFailure S.source dbs[k] = some f)
    (hr : Race R dbs S k s) : Course S f s.turn := by
  obtain ⟨e, rest, hq⟩ := List.exists_cons_of_ne_nil (hr.queue_ne_nil hkn hfk)
  obtain ⟨h, hs, hh⟩ : ∃ h hs, s.stamps = h :: hs := by
    have hlen := hr.ordered.length
    rw [hq] at hlen
    obtain ⟨h, hs, hh⟩ := List.exists_cons_of_length_eq_add_one hlen
    exact ⟨h, hs, hh⟩
  by_cases he : e = .childDone 0 (3 + k)
  · subst he
    refine .settling ?_
    rw [turn_run]
    unfold Run.turn
    rw [hq]
    exact hr.settle hkn hfk hq
  · exact .race R dbs k hkn hk hfk (hr.turn hk hq hh he)

/-- **Every turn keeps a load on its course.** -/
theorem Course.turn (hc : Course S f s) (hf : firstLoadFailure S.source = some f) :
    Course S f s.turn := by
  cases hc with
  | asking hA ho => exact Course.asking_turn hf hA ho
  | race R dbs k hkn hk hfk hr => exact Course.race_turn hkn hk hfk hr
  | settling hS => exact .settling (by rw [turn_run]; exact hS.turn)

/-- **Every state of the run is on the course.** -/
theorem Course.drain (hc : Course S f s) (hf : firstLoadFailure S.source = some f) (n : Nat) :
    ∃ s' : Stamped, s'.run = Run.drain n s.run ∧ Course S f s' := by
  induction n generalizing s with
  | zero => exact ⟨s, rfl, hc⟩
  | succ n ih =>
    obtain ⟨s', hs', hc'⟩ := ih (hc.turn hf)
    exact ⟨s', by rw [hs', turn_run, Run.drain_succ], hc'⟩

/-- A drained run on the course has recorded the first failure. -/
theorem Course.settling_of_nil (hc : Course S f s) (hq : s.run.queue = []) :
    Run.Settling S f s.run := by
  cases hc with
  | asking hA _ =>
    rw [hA.queue] at hq
    cases hq
  | race R dbs k hkn _ hfk hr => exact absurd hq (hr.queue_ne_nil hkn hfk)
  | settling hS => exact hS

end Stamped

/-! ## The first failure wins -/

/-- **The first failure wins.**  A lone load of a name with no load in flight, from a source
that fails before any question for columns, fails with the first failure it meets: that of
the question for the databases; else the failure of the tables of the first database whose
question for them fails at once; else that of the first database whose tables fail. -/
theorem World.load_first_failure (w : World) (name src : String)
    (hfree : w.cache.inflight.lookup name = none) {f : LoadFailure}
    (hf : firstLoadFailure (w.sources.lookup src) = some f) : (w.load name src).2 = .failed f := by
  obtain ⟨n, hq, -, hperf⟩ := World.perform_lone_drain w name src false fun _ => hfree
  obtain ⟨s, hs, hc⟩ := (Stamped.Course.lone w name src f).drain hf n
  rw [World.load_of_perform hperf]
  rw [← hs] at hq ⊢
  exact (hc.settling_of_nil hq).outcome hq

/-- A question for tables that fails at once fails before that of an earlier database
that fails after yielding. -/
theorem World.load_first_failure_at_once :
    let w : World := { sources := [("s", .scripted [
      ("databases", .returns (.list [.str "A", .str "B"])),
      ("tables:A", .fails ⟨"ValueError", "a"⟩),
      ("tables:B", .failsAtOnce ⟨"ValueError", "b"⟩)] [])] }
    let f : LoadFailure := .stage ⟨.tables, some (.str "B"), none, ⟨"ValueError", "b"⟩⟩
    w.cache.inflight.lookup "ds" = none ∧ firstLoadFailure (w.sources.lookup "s") = some f ∧
      (w.load "ds" "s").2 = .failed f := by
  intro w f
  exact ⟨rfl, rfl, World.load_first_failure w "ds" "s" rfl rfl⟩

/-- **A later failure of a question for columns can be reported.**  The columns of `A.t1`
and of `B.u1` fail at once, in one round, and `A.t1` is asked first; but the task of
database `A` waits for its other column task before it ends, so the loader's group records
the failure of `B.u1` first. -/
theorem World.load_reports_later_columns_failure :
    let w : World := { sources := [("a", .scripted [
      ("databases", .returns (.list [.str "A", .str "B"])),
      ("tables:A", .returns (.list [.str "t1", .str "t2"])),
      ("tables:B", .returns (.list [.str "u1"])),
      ("columns:A.t1", .failsAtOnce ⟨"ValueError", "a1"⟩),
      ("columns:A.t2", .returns (.list [])),
      ("columns:B.u1", .failsAtOnce ⟨"ValueError", "b1"⟩)] [])] }
    (w.load "ds" "a").2 =
      .failed (.stage ⟨.columns, some (.str "B"), some (.str "u1"), ⟨"ValueError", "b1"⟩⟩) := by
  rfl

end SqlAssist.Schema
