import SqlAssist.Proofs.Schema.LoadSteps

/-!
# A lone load ends with its schema published or a load error

`World.load` and `World.refresh` run a plan of one entry.  In three turns the client
issues its caller, the caller starts the loader (task 2) and records it as the load in
flight, and the client waits on the caller (`Run.lone`).  From there on every turn keeps
the invariant of a lone load (`Run.LoadInv.handle`), and the budget of the run empties
its queue (`Run.drain_queue_nil`).

A run whose queue is empty has nothing left to wait for: a task that has not ended either
has a step queued or waits on a live member of its group, which comes after it, so the
last task that has not ended would have to wait on a later one.  Every task under the
caller has therefore ended, and the caller took the loader's ending.  The invariant says
what that ending can be: not cancelled; a failure that names a load error; or an ending
that published a snapshot.

## Main statements

* `Run.drain_start`: the first three turns, computed.
* `Run.lone_loadInv`: the invariant holds after them.
* `Run.LoadInv.settled`: with the queue empty, the caller has taken the loader's ending.
* `Run.LoadInv.ending_snapshot`: that ending, and the name's snapshot it leaves.
* `World.load_outcome`, `World.refresh_outcome`: **a lone load or refresh is done with a
  snapshot of the name published, or has failed with a load error**; the loads in flight
  are as before.
-/

namespace SqlAssist.Schema

namespace Run

/-! ## Only the client records its callers -/

section Issued

variable (r : Run) {i g : Nat}

@[simp] theorem loadFailed_issued (f : LoadFailure) : (r.loadFailed i f).issued = r.issued := by
  unfold loadFailed
  split <;> simp

@[simp] theorem publish_issued : (r.publish i).issued = r.issued := by
  unfold publish
  split
  · split <;> simp
  · simp

@[simp] theorem groupEnd_issued : (r.groupEnd i g).issued = r.issued := by
  unfold groupEnd
  dsimp only
  split_ifs <;> (try split) <;> (try split) <;> simp

@[simp] theorem groupExit_issued (thrown : Bool) : (r.groupExit i g thrown).issued = r.issued := by
  rw [groupExit_eq, groupResume_eq]
  split <;> simp

@[simp] theorem shield_issued (l : Nat) : (r.shield i l).issued = r.issued := by
  unfold shield
  split <;> simp

@[simp] theorem callerStart_issued (name src : String) (refresh : Bool) :
    (r.callerStart i name src refresh).issued = r.issued := by
  unfold callerStart
  cases refresh <;> dsimp only <;> simp only [Bool.false_eq_true, ↓reduceIte] <;> split <;> simp

theorem fetchNames_issued (src : String) (d : Option Value)
    {go : Run → Except FetchError (List Value) → Run} (hgo : ∀ r' o, (go r' o).issued = r'.issued) :
    (r.fetchNames i src d go).issued = r.issued := by
  have ha := ask_issued r src (·.askNames d) []
  unfold fetchNames
  generalize r.ask src (·.askNames d) [] = p at ha
  obtain ⟨r', reply⟩ := p
  dsimp only at ha ⊢
  split <;> simp [hgo, ha]

theorem fetchColumns_issued (src : String) (d t : Value)
    {go : Run → Except FetchError (List ColumnEntry) → Run}
    (hgo : ∀ r' o, (go r' o).issued = r'.issued) :
    (r.fetchColumns i src d t go).issued = r.issued := by
  have ha := ask_issued r src (·.askColumns d t) []
  unfold fetchColumns
  generalize r.ask src (·.askColumns d t) [] = p at ha
  obtain ⟨r', reply⟩ := p
  dsimp only at ha ⊢
  split <;> simp [hgo, ha]

@[simp] theorem loaderDatabases_issued (o : Except FetchError (List Value)) :
    (r.loaderDatabases i o).issued = r.issued := by
  unfold loaderDatabases
  split <;> simp

@[simp] theorem databaseTables_issued (l : Nat) (d : Value) (o : Except FetchError (List Value)) :
    (r.databaseTables i l d o).issued = r.issued := by
  unfold databaseTables
  split
  · simp
  · split
    · simp
    · dsimp only
      split <;> simp

@[simp] theorem columnsFetched_issued (l : Nat) (d t : Value)
    (o : Except FetchError (List ColumnEntry)) :
    (r.columnsFetched i l d t o).issued = r.issued := by
  unfold columnsFetched
  split
  · simp
  · split <;> simp

@[simp] theorem clientAwait_issued (cs : List Nat) : (r.clientAwait i cs).issued = r.issued := by
  induction cs generalizing r with
  | nil => simp [clientAwait]
  | cons c cs ih =>
    unfold clientAwait
    split
    · exact ih r
    · simp

@[simp] theorem childDone_issued (c : Nat) : (r.childDone g c).issued = r.issued := by
  unfold childDone
  dsimp only
  split <;> (try split) <;> (try split) <;> (try split) <;> simp

/-- A step of a task other than the client records no caller. -/
theorem resume_issued (thrown : Bool) {role : Role} (hrole : role ≠ .client) (p : Phase) :
    (r.resume i thrown role p).issued = r.issued := by
  cases role with
  | client => exact absurd rfl hrole
  | caller => cases p <;> simp only [resume] <;> (try split) <;> simp
  | loader => cases p <;> simp only [resume] <;> (try split) <;> simp [fetchNames_issued]
  | database => cases p <;> simp only [resume] <;> (try split) <;> simp [fetchNames_issued]
  | columns => cases p <;> simp only [resume] <;> (try split) <;> simp [fetchColumns_issued]

/-- **Only a client issuing its plan records callers.**  A step of any other task, or of
a client that waits on its callers, leaves the record as it is. -/
theorem stepTask_issued (thrown : Bool)
    (h : (r.task i).role = .client → ∃ cs, (r.task i).phase = .awaiting cs) :
    (r.stepTask i thrown).issued = r.issued := by
  rw [stepTask_eq]
  split
  · rfl
  · by_cases hrole : (r.task i).role = .client
    · obtain ⟨cs, hcs⟩ := h hrole
      rw [hrole, hcs]
      simp [resume]
    · rw [resume_issued _ _ hrole]
      rfl

end Issued

/-! ## The first three turns -/

/-- The cache a lone load of `name` runs under: cleared first when refreshing, with the
loader, task 2, recorded as the load of `name` in flight. -/
def loneCache (c : Cache) (name : String) (refresh : Bool) : Cache :=
  let c := if refresh then c.clear name else c
  { c with inflight := setEntry c.inflight name 2 }

/-- The run of a lone load after its first three turns: the client waits on its caller,
the caller waits on the outcome of the loader, and the loader's step is queued. -/
def lone (w : World) (name src : String) (refresh : Bool) : Run where
  world := { w with cache := loneCache w.cache name refresh }
  tasks := #[{ role := .client, phase := .awaiting [1] },
    { role := .caller name src refresh, phase := .shielded 0, waitsOn := some 0,
      callbacks := [.wake 0] },
    { role := .loader name src ((loneCache w.cache name refresh).generation name),
      callbacks := [.forget name, .relay 0] }]
  futs := #[{ waiters := [1] }]
  queue := [.step 2 false]
  issued := [some 1]

/-- The run of a plan before its first turn, as `World.perform` starts it. -/
def start (w : World) (plan : List Plan) : Run :=
  { world := w, tasks := #[{ role := .client, phase := .issuing plan }], queue := [.step 0 false] }

/-- The entry of a lone load or refresh. -/
def loneEntry (name src : String) (refresh : Bool) : Plan :=
  if refresh then .refresh name src else .load name src

/-- **The first three turns of a lone load.**  The client issues its caller; the caller,
finding no load of the name in flight (a refresh clears the name first), starts the loader
and waits on it; the client waits on the caller. -/
theorem drain_start (w : World) (name src : String) (refresh : Bool)
    (hfree : refresh = false → w.cache.inflight.lookup name = none) (n : Nat) :
    drain (n + 3) (start w [loneEntry name src refresh]) = drain n (lone w name src refresh) := by
  cases refresh with
  | false =>
    simp [drain, handle, stepTask, start, loneEntry, clientIssue, issueCaller, spawn, enqueue,
      setTask, task, callerStart, hfree rfl, shield, newFut, setCache, clientAwait, lone, loneCache,
      Cache.generation]
  | true =>
    simp [drain, handle, stepTask, start, loneEntry, clientIssue, issueCaller, spawn, enqueue,
      setTask, task, callerStart, Cache.clear, shield, newFut, setCache, clientAwait, lone,
      loneCache, Cache.generation]

/-- The three turns cost three of the run's budget at least. -/
theorem turns_start (w : World) (name src : String) (refresh : Bool) (K : Nat) :
    (lone w name src refresh).turns K + 3 ≤ (start w [loneEntry name src refresh]).turns K := by
  -- the queued step and the entry count the loader's turns and fourteen more; after the
  -- three turns, the loader's turns and eight more remain
  cases refresh <;>
  · simp [Run.turns, lone, start, loneEntry, Task.turns, Task.phaseTurns, Plan.turns,
      callerTurns, Fut.turns, Event.turns, Callback.turns]
    omega

/-! ## The invariant after the first turns -/

end Run

/-- The setting of a lone load of `name` from `src` in the world `w`. -/
def LoadSetting.lone (w : World) (name src : String) (refresh : Bool) : LoadSetting where
  name := name
  src := src
  refresh := refresh
  cache := Run.loneCache w.cache name refresh
  sources := w.sources
  loaderInFlight := by simp [Run.loneCache]

namespace Run

section Lone

variable {w : World} {name src : String} {refresh : Bool}

theorem lone_task_of_three_le {k : Nat} (hk : 3 ≤ k) : (lone w name src refresh).task k = default :=
  task_of_size_le _ hk

/-- No task of the lone run has ended, or is marked for a cancel. -/
theorem lone_task_calm (k : Nat) : ((lone w name src refresh).task k).ending = none ∧
    ((lone w name src refresh).task k).mustCancel = false := by
  match k with
  | 0 | 1 | 2 => exact ⟨rfl, rfl⟩
  | k + 3 => rw [lone_task_of_three_le (by omega)]; exact ⟨rfl, rfl⟩

/-- No task of the lone run is a member of a group. -/
theorem lone_not_member (g k : Nat) : ¬ (lone w name src refresh).Member g k := by
  unfold Member
  match k with
  | 0 | 1 | 2 => exact fun h => by cases h
  | k + 3 => rw [lone_task_of_three_le (by omega)]; exact fun h => by cases h

/-- Under the caller, the lone run has only the loader, at its start. -/
theorem lone_task_under {k : Nat} (hk : 2 ≤ k) :
    ((lone w name src refresh).task k).phase = .start ∧
      ((lone w name src refresh).task k).waitsOn = none ∧
      ∀ l d, ((lone w name src refresh).task k).role ≠ .database l d := by
  match k, hk with
  | 2, _ => exact ⟨rfl, rfl, fun _ _ h => by cases h⟩
  | k + 3, _ => rw [lone_task_of_three_le (by omega)]; exact ⟨rfl, rfl, fun _ _ h => by cases h⟩

theorem lone_task_not_columns (k l : Nat) (d t : Value) :
    ((lone w name src refresh).task k).role ≠ .columns l d t := by
  match k with
  | 0 | 1 | 2 => exact fun h => by cases h
  | k + 3 => rw [lone_task_of_three_le (by omega)]; exact fun h => by cases h

/-- **The invariant holds after the first three turns.** -/
theorem lone_loadInv : (lone w name src refresh).LoadInv (.lone w name src refresh) := by
  have hq : ∀ x ∈ (lone w name src refresh).queue, x = .step 2 false := fun x hx => by
    simpa [Run.lone] using hx
  have hcalm := @lone_task_calm w name src refresh
  refine ⟨?top, ?tree, ?progress, fun _ => ?data, ?cache, fun _ _ => ?clean⟩
  case top =>
    exact
      { size := by simp [Run.lone]
        client := ⟨rfl, rfl⟩
        clientPhase := rfl
        clientWaits := fun _ => .inl rfl
        clientDone := .inl rfl
        clientStep := fun _ hx => by cases hq _ hx
        caller := ⟨rfl, rfl, rfl⟩
        fut := ⟨by simp [Run.lone], rfl⟩
        futState := .inl ⟨rfl, .inl rfl⟩
        callerWaits := fun _ => .inl rfl
        callerDone := fun _ he => by cases he
        callerStep := fun _ hx => by cases hq _ hx
        relay := fun _ _ hx => by cases hq _ hx
        loader := rfl
        loaderEnding := fun h => by cases h
        forgets := fun _ _ hx => by cases hq _ hx
        inflight := .inl ⟨rfl, .inl rfl⟩ }
  case tree =>
    have hsize : (lone w name src refresh).tasks.size = 3 := by simp [Run.lone]
    have hgroups : (lone w name src refresh).groups.size = 0 := rfl
    exact
      { shape := fun j hj hlt => by
          obtain rfl : j = 2 := by omega
          exact ⟨rfl, rfl, rfl, rfl, .inl rfl⟩
        fresh := fun _ _ => ⟨hsize, hgroups⟩
        sub := fun j hj hlt => by omega
        member := fun g c hm => (lone_not_member g c hm).elim
        owner := fun g hg => by omega
        grouped := fun j g hj hph => by rw [(lone_task_under hj).1] at hph; cases hph
        live := fun g hg => by omega
        livePending := fun g hg => by omega
        noted := fun g hg => by omega
        childDone := fun g c hx => by cases hq _ hx
        groupFut := fun g hg => by omega
        waitsOn := fun j f hj hw => by rw [(lone_task_under hj).2.1] at hw; cases hw
        errors := fun g hg => by omega
        failed := fun j f _ he => by rw [(hcalm j).1] at he; cases he
        abortReason := fun g hg => by omega
        outside := fun g hg => by omega
        cancelled := fun g hg => by omega
        cancelSource := fun j hj hc => by
          rcases hc with hc | hx
          · rw [(hcalm j).2] at hc; cases hc
          · simpa using hq _ hx }
  case progress =>
    intro j hj hlt _
    obtain rfl : j = 2 := by simp [Run.lone] at hlt; omega
    exact .inl ⟨false, List.mem_singleton_self _⟩
  case data =>
    exact
      { tables := fun e he => by simp [Run.lone, store] at he
        columns := fun e he => by simp [Run.lone, store] at he
        dbRole := fun j d hrole => by
          rcases j with _ | _ | k
          · cases hrole
          · cases hrole
          · exact absurd hrole ((lone_task_under (by omega)).2.2 2 d)
        columnsRole := fun j d t hrole => absurd hrole (lone_task_not_columns j 2 d t)
        cover := fun g hg => by simp [Run.lone] at hg
        dbGrouped := fun j d g hj hrole => absurd hrole ((lone_task_under hj).2.2 2 d)
        filed := fun j _ he => by rw [(hcalm j).1] at he; cases he }
  case cache =>
    exact
      { others := fun _ _ => rfl
        unpublished := fun _ => rfl
        published := fun _ he => by rw [(hcalm 2).1] at he; cases he
        publishedSome := fun he => by rw [(hcalm 2).1] at he; cases he
        generations := rfl
        sources := ⟨SourcesAgree.refl _, fun _ _ => ⟨[], by simp [Run.lone, LoadSetting.lone], by simp⟩⟩ }
  case clean =>
    exact
      { endings := fun j e _ he => by rw [(hcalm j).1] at he; cases he
        groups := fun g => ⟨rfl, rfl, rfl⟩
        noCancel := fun j _ => ⟨(hcalm j).2, fun hx => by simpa using hq _ hx⟩ }

end Lone

/-! ## The run from there -/

section Run

variable {S : LoadSetting} {r : Run}

/-- The client is the first task: the caller and the tasks under it have other roles. -/
theorem LoadInv.client_first (h : r.LoadInv S) {i : Nat} (hi : i < r.tasks.size)
    (hrole : (r.task i).role = .client) : i = 0 := by
  match i with
  | 0 => rfl
  | 1 => rw [h.top.caller.1] at hrole; cases hrole
  | j + 2 =>
    have hshape := h.tree.shape (j + 2) (by omega) hi
    unfold LoadSetting.Shape at hshape
    rw [hrole] at hshape
    exact hshape.elim

/-- **The client is ready for its turn**: it waits on the caller alone, which has ended
once the client's step is queued. -/
theorem LoadInv.clientReady (h : r.LoadInv S) {i : Nat} {th : Bool} {rest : List Event}
    (hq : r.queue = .step i th :: rest) : ({ r with queue := rest } : Run).ClientReady i := by
  have htask : ({ r with queue := rest } : Run).task i = r.task i := rfl
  unfold ClientReady
  rw [htask]
  by_cases hi : i < r.tasks.size
  · by_cases hrole : (r.task i).role = .client
    · obtain rfl := h.client_first hi hrole
      rw [hrole, h.top.clientPhase]
      intro c hc
      rw [List.mem_singleton.1 hc]
      exact .inl (h.top.clientStep th (by rw [hq]; exact List.mem_cons_self))
    · cases hR : (r.task i).role with
      | client => exact absurd hR hrole
      | _ => trivial
  · -- a task past the end is a client at its start, which asks for nothing
    rw [task_of_size_le _ (by omega)]
    trivial

/-- The sources of a lone load answer no more items than the width of the world it
started in: they answer as they did then. -/
theorem LoadCache.bounded (h : r.LoadCache S) : r.Bounded (S.sources.map (·.2.width)).sum := by
  intro src s hs
  have hrel := h.sources.agree src
  rw [hs] at hrel
  cases hs0 : S.sources.lookup src with
  | none => rw [hs0] at hrel; cases hrel
  | some s0 =>
    rw [hs0] at hrel
    cases hrel with
    | some hsame =>
      rw [hsame.width]
      obtain ⟨l₁, l₂, hl, -⟩ := List.lookup_eq_some_iff.1 hs0
      rw [hl]
      simp only [List.map_append, List.map_cons, List.sum_append, List.sum_cons]
      omega

/-- Under the invariant no turn records a caller: the client only waits. -/
theorem LoadInv.handle_issued (h : r.LoadInv S) {e : Event} {rest : List Event}
    (hq : r.queue = e :: rest) : (({ r with queue := rest } : Run).handle e).issued = r.issued := by
  cases e with
  | step i th =>
    simp only [Run.handle]
    by_cases hi : i < r.tasks.size
    · refine stepTask_issued _ th fun hrole => ⟨[1], ?_⟩
      obtain rfl := h.client_first hi hrole
      exact h.top.clientPhase
    · rw [stepTask_of_size_le _ (by simpa using hi)]
  | childDone g c => simp [Run.handle]
  | forget n l => simp only [Run.handle]; split <;> simp
  | relay l f => simp only [Run.handle]; split <;> simp

/-- **A lone load's run empties its queue within its budget**, keeping the invariant and
the record of its one caller. -/
theorem drain_lone (w : World) (name src : String) (refresh : Bool) {fuel : Nat}
    (hfuel : (lone w name src refresh).turns w.width ≤ fuel) :
    (drain fuel (lone w name src refresh)).queue = [] ∧
      (drain fuel (lone w name src refresh)).LoadInv (.lone w name src refresh) ∧
      (drain fuel (lone w name src refresh)).issued = [some 1] := by
  have hrun := drain_queue_nil w.width
    (P := fun r => r.LoadInv (.lone w name src refresh) ∧ r.issued = [some 1])
    (fun r e rest hr hq => ⟨hr.1.handle hq, (hr.1.handle_issued hq).trans hr.2⟩)
    (fun r hr => hr.1.cache.bounded)
    (fun r i th rest hr hq => hr.1.clientReady hq)
    fuel (lone w name src refresh) ⟨lone_loadInv, rfl⟩ hfuel
  exact ⟨hrun.1, hrun.2.1, hrun.2.2⟩

/-! ## With the queue empty -/

/-- **With the queue empty, every task under the caller has ended.**  A task that has not
ended has no step queued, so it waits on a live member of its group; that member comes
after it and has not ended either.  The induction runs down from the last task. -/
theorem LoadInv.ended_of_queue_nil (h : r.LoadInv S) (hq : r.queue = []) {k : Nat} (hk : 2 ≤ k)
    (hlt : k < r.tasks.size) : (r.task k).ending.isSome := by
  induction hd : r.tasks.size - k using Nat.strong_induction_on generalizing k with
  | _ n ih =>
    by_contra hne
    have hend : (r.task k).ending = none := by simpa using hne
    rcases h.progress k hk hlt hend with ⟨th, hx⟩ | ⟨g, f, hph, -, -, -, -, hlive⟩
    · rw [hq] at hx
      cases hx
    · obtain ⟨hg, hown⟩ := h.tree.grouped k g hk hph
      obtain ⟨c, hc⟩ := List.exists_mem_of_ne_nil _ hlive
      obtain ⟨-, hkc, hcs⟩ := (h.tree.live g hg).2 c hc
      rw [hown] at hkc
      have hcend : (r.task c).ending = none := by
        rcases h.tree.livePending g hg c hc with he | hx
        · exact he
        · rw [hq] at hx
          cases hx
      have hdone := ih (r.tasks.size - c) (by omega) (by omega) hcs rfl
      rw [hcend] at hdone
      cases hdone

/-- **With the queue empty, the caller has taken the loader's ending**, which is not a
cancel. -/
theorem LoadInv.settled (h : r.LoadInv S) (hq : r.queue = []) :
    ∃ e, (r.task 1).ending = some e ∧ (r.task 2).ending = some e ∧ e ≠ .cancelled := by
  have hloader := h.ended_of_queue_nil hq le_rfl (by have := h.top.size; omega)
  -- the caller's outcome is settled: the loader has ended and its relay is handled
  have hres : (r.fut 0).state ≠ .pending := fun hp => by
    rcases h.top.futState with ⟨-, hnone | hx⟩ | ⟨e, hf, -⟩
    · rw [hnone] at hloader
      cases hloader
    · rw [hq] at hx
      cases hx
    · rw [hf] at hp
      cases hp
  cases h1 : (r.task 1).ending with
  | none =>
    rcases h.top.callerWaits h1 with hp | hx
    · exact absurd hp hres
    · rw [hq] at hx
      cases hx
  | some e =>
    have h2 := h.top.callerDone e h1
    exact ⟨e, rfl, h2, fun hc => h.top.loaderEnding (hc ▸ h2)⟩

/-- **What a lone load that has settled gives its caller, and what it leaves of the name's
snapshot:** done with a snapshot published, the fetched one when the source names things by
texts; or a failure that names a load error, with the name's snapshot as the load found
it. -/
theorem LoadInv.ending_snapshot (h : r.LoadInv S) (hq : r.queue = []) :
    (Ending.outcome (r.task 1).ending = .done ∧ (r.world.cache.snapshot? S.name).isSome ∧
        (TextNames S.source → r.world.cache.snapshot? S.name = fetchedSnapshot S.source)) ∨
      ∃ f, Ending.outcome (r.task 1).ending = .failed f ∧
        r.world.cache.snapshot? S.name = S.cache.snapshot? S.name := by
  obtain ⟨e, h1, h2, hne⟩ := h.settled hq
  rw [h1]
  cases e with
  | ok => exact .inl ⟨rfl, h.cache.publishedSome h2, fun hs => (h.cache.published hs h2).1⟩
  | failed fl =>
    obtain ⟨f, hf⟩ := Option.ne_none_iff_exists'.1 (h.tree.failed 2 fl le_rfl h2)
    refine .inr ⟨f, by simp [Ending.outcome, hf], h.cache.unpublished ?_⟩
    rw [h2]
    simp
  | cancelled => exact absurd rfl hne

/-- What a lone load that has settled gives its caller: done with a snapshot of the name
published, or a failure that names a load error. -/
theorem LoadInv.outcome (h : r.LoadInv S) (hq : r.queue = []) :
    (Ending.outcome (r.task 1).ending = .done ∧ (r.world.cache.snapshot? S.name).isSome) ∨
      ∃ f, Ending.outcome (r.task 1).ending = .failed f := by
  rcases h.ending_snapshot hq with ⟨hd, hs, -⟩ | ⟨f, hf, -⟩
  · exact .inl ⟨hd, hs⟩
  · exact .inr ⟨f, hf⟩

/-- A lone load whose source answers every question, naming things by texts, is done. -/
theorem LoadInv.done_of_answers (h : r.LoadInv S) (hq : r.queue = []) (hs : TextNames S.source)
    (hfs : (fetchedSnapshot S.source).isSome) : Ending.outcome (r.task 1).ending = .done := by
  obtain ⟨e, h1, h2, -⟩ := h.settled hq
  rw [h1, (h.clean hs hfs).endings 2 e le_rfl h2]
  rfl

/-- With the queue empty, the loader's end has been forgotten: the name has no load in
flight. -/
theorem LoadInv.inflight_settled (h : r.LoadInv S) (hq : r.queue = []) :
    r.world.cache.inflight = eraseKey S.cache.inflight S.name := by
  obtain ⟨e, -, h2, -⟩ := h.settled hq
  rcases h.top.inflight with ⟨-, hnone | hx⟩ | herase
  · rw [h2] at hnone
    cases hnone
  · rw [hq] at hx
    cases hx
  · exact herase

end Run

end Run

/-! ## Loads in flight -/

/-- Erasing a key undoes setting it. -/
theorem eraseKey_setEntry {α : Type} (xs : List (String × α)) (k : String) (v : α) :
    eraseKey (setEntry xs k v) k = eraseKey xs k := by
  -- replacing the entries of `k` changes nothing that survives the erasing
  have hmap : ∀ ys : List (String × α),
      (ys.map fun e => if e.1 == k then (k, v) else e).filter (·.1 != k) = ys.filter (·.1 != k) := by
    intro ys
    induction ys with
    | nil => rfl
    | cons e ys ih =>
      rw [List.map_cons, List.filter_cons, List.filter_cons, ih]
      by_cases he : e.1 = k <;> simp [he]
  unfold setEntry eraseKey
  split
  · exact hmap xs
  · simp

theorem eraseKey_eraseKey {α : Type} (xs : List (String × α)) (k : String) :
    eraseKey (eraseKey xs k) k = eraseKey xs k := by
  unfold eraseKey
  rw [List.filter_filter]
  congr 1
  funext e
  simp

theorem eraseKey_of_lookup_none {α : Type} {xs : List (String × α)} {k : String}
    (h : xs.lookup k = none) : eraseKey xs k = xs := by
  unfold eraseKey
  rw [List.filter_eq_self]
  intro e he
  rw [List.lookup_eq_none_iff] at h
  have hk := h e he
  rw [bne_iff_ne]
  rintro rfl
  simp at hk
/-! ## A lone load or refresh -/

/-- `World.perform` drains the run it starts for the run's own budget of turns. -/
theorem World.perform_eq (w : World) (plan : List Plan) :
    w.perform plan =
      ((Run.drain ((Run.start w plan).turns w.width) (Run.start w plan)).world,
        (Run.drain ((Run.start w plan).turns w.width) (Run.start w plan)).issued.map
          fun o => o.map fun c =>
            Ending.outcome ((Run.drain ((Run.start w plan).turns w.width) (Run.start w plan)).task c).ending) :=
  rfl

/-- A lone load's plan drains the lone run: after its first three turns, the run of the
load alone drains to an empty queue, and the plan reports the ending of its one caller. -/
theorem World.perform_lone_drain (w : World) (name src : String) (refresh : Bool)
    (hfree : refresh = false → w.cache.inflight.lookup name = none) :
    ∃ n, (Run.drain n (Run.lone w name src refresh)).queue = [] ∧
      (Run.drain n (Run.lone w name src refresh)).LoadInv (.lone w name src refresh) ∧
      w.perform [Run.loneEntry name src refresh] =
        ((Run.drain n (Run.lone w name src refresh)).world,
          [some (Ending.outcome ((Run.drain n (Run.lone w name src refresh)).task 1).ending)]) := by
  have hle := Run.turns_start w name src refresh w.width
  obtain ⟨n, hn⟩ : ∃ n, (Run.start w [Run.loneEntry name src refresh]).turns w.width = n + 3 :=
    ⟨_, (Nat.sub_add_cancel (by omega)).symm⟩
  obtain ⟨hq, hinv, hissued⟩ := Run.drain_lone w name src refresh
    (by omega : (Run.lone w name src refresh).turns w.width ≤ n)
  refine ⟨n, hq, hinv, ?_⟩
  rw [World.perform_eq, hn, Run.drain_start w name src refresh hfree n, hissued]
  rfl

/-- **A lone load's plan settles.**  The run ends with an empty queue and the invariant,
and reports the ending of its one caller. -/
theorem World.perform_lone (w : World) (name src : String) (refresh : Bool)
    (hfree : refresh = false → w.cache.inflight.lookup name = none) :
    ∃ r : Run, r.queue = [] ∧ r.LoadInv (.lone w name src refresh) ∧
      w.perform [Run.loneEntry name src refresh] =
        (r.world, [some (Ending.outcome (r.task 1).ending)]) := by
  obtain ⟨n, hq, hinv, hperf⟩ := World.perform_lone_drain w name src refresh hfree
  exact ⟨_, hq, hinv, hperf⟩

/-- What a lone load or refresh gives: done with a snapshot of the name in the cache, or
failed with a load error, and no load of the name left in flight. -/
theorem World.perform_lone_outcome (w : World) (name src : String) (refresh : Bool)
    (hfree : refresh = false → w.cache.inflight.lookup name = none) :
    ∃ (w' : World) (o : Outcome), w.perform [Run.loneEntry name src refresh] = (w', [some o]) ∧
      ((o = .done ∧ w'.cache.has name) ∨ ∃ f, o = .failed f) ∧
      w'.cache.inflight = eraseKey (Run.loneCache w.cache name refresh).inflight name := by
  obtain ⟨r, hq, hinv, hperf⟩ := World.perform_lone w name src refresh hfree
  exact ⟨_, _, hperf, hinv.outcome hq, hinv.inflight_settled hq⟩

/-- A load is the lone load its plan runs. -/
theorem World.load_of_perform {w w' : World} {name src : String} {o : Outcome}
    (h : w.perform [Run.loneEntry name src false] = (w', [some o])) : w.load name src = (w', o) := by
  unfold World.load
  rw [show [Plan.load name src] = [Run.loneEntry name src false] from rfl, h]

/-- A refresh is the lone refresh its plan runs. -/
theorem World.refresh_of_perform {w w' : World} {name src : String} {o : Outcome}
    (h : w.perform [Run.loneEntry name src true] = (w', [some o])) :
    w.refresh name src = (w', o) := by
  unfold World.refresh
  rw [show [Plan.refresh name src] = [Run.loneEntry name src true] from rfl, h]

/-- **A lone load is done with the name's schema in the cache, or fails with a load
error.**  It is never cancelled nor left unfinished, and it leaves the loads in flight as
it found them.  The name must have no load in flight when it starts. -/
theorem World.load_outcome (w : World) (name src : String)
    (hfree : w.cache.inflight.lookup name = none) :
    (((w.load name src).2 = .done ∧ (w.load name src).1.cache.has name) ∨
      ∃ f, (w.load name src).2 = .failed f) ∧
      (w.load name src).1.cache.inflight = w.cache.inflight := by
  obtain ⟨w', o, hperf, hout, hinfl⟩ := World.perform_lone_outcome w name src false fun _ => hfree
  rw [World.load_of_perform hperf]
  refine ⟨hout, ?_⟩
  rw [hinfl]
  simp only [Run.loneCache, Bool.false_eq_true, ↓reduceIte]
  rw [eraseKey_setEntry, eraseKey_of_lookup_none hfree]

/-- **A lone refresh is done with the name's schema in the cache, or fails with a load
error**, and leaves no load of the name in flight.  It clears the name first, so it
needs nothing of the loads in flight. -/
theorem World.refresh_outcome (w : World) (name src : String) :
    (((w.refresh name src).2 = .done ∧ (w.refresh name src).1.cache.has name) ∨
      ∃ f, (w.refresh name src).2 = .failed f) ∧
      (w.refresh name src).1.cache.inflight = eraseKey w.cache.inflight name := by
  obtain ⟨w', o, hperf, hout, hinfl⟩ :=
    World.perform_lone_outcome w name src true fun h => by cases h
  rw [World.refresh_of_perform hperf]
  refine ⟨hout, ?_⟩
  rw [hinfl]
  simp only [Run.loneCache, ↓reduceIte, Cache.clear]
  rw [eraseKey_setEntry, eraseKey_eraseKey]

end SqlAssist.Schema
