import SqlAssist.Proofs.Schema.LoadNotes

/-!
# Every turn of a lone load keeps its invariant

The steps of the tasks under the caller, by role and phase: the loader asks for the
databases and starts a task for each, a database task asks for its tables and starts a
task for each, a column task asks for its columns; an owner checks its group.  Each
step is a short sequence of the updates of `SqlAssist.Proofs.Schema.LoadStepping`, so
each handler here is a case split that cites them.  With the turns above the caller
(`SqlAssist.Proofs.Schema.LoadFrames`) and the notes of the groups
(`SqlAssist.Proofs.Schema.LoadNotes`), every event keeps the invariant.

## Main statements

* `Stepping.fetchNames`, `Stepping.fetchColumns`: a task that asks its source yields
  with the source's answer, or goes on with it at once.
* `Stepping.loaderDatabases`, `Stepping.databaseTables`, `Stepping.columnsFetched`: what
  a task does with the answer keeps the invariant.
* `Stepping.groupExit`: so does an owner's check of its group.
* `LoadInv.step_under`: a step of a task under the caller keeps the invariant.
* `LoadInv.handle`: **every turn keeps the invariant.**
-/

namespace SqlAssist.Schema

/-- A source records the key of a question it is asked, if it records any. -/
theorem Source.asked_ask {α : Type} (s : Source) (key : FetchKey)
    (fromCatalog : Catalog → Except Misuse α) (fromScript : Value → Except Misuse α)
    (fromServer : Postgres.Adapter → Postgres.Adapter × Except FetchError α) :
    ∃ ks, (s.ask key fromCatalog fromScript fromServer).1.asked = s.asked ++ ks ∧
      ∀ k ∈ ks, k = key.text := by
  cases s with
  | catalog c failures ks => exact ⟨[key.text], rfl, by simp⟩
  | scripted script ks => exact ⟨[key.text], rfl, by simp⟩
  | postgres a => exact ⟨[], by simp [Source.ask, Source.asked], by simp⟩

/-- Asking a source one of the questions of a load from it keeps the sources asked only
that load's questions. -/
theorem AskedOnly.ask {ss₀ : List (String × Source)} {src : String} {r : Run}
    (h : AskedOnly ss₀ src r.world.sources) {α : Type} {q : Source → Source × Reply α}
    {nothing : α} {key : FetchKey}
    (hkey : ∀ s, ∃ ks, (q s).1.asked = s.asked ++ ks ∧ ∀ k ∈ ks, k = key.text)
    (hq : LoadQuestion (ss₀.lookup src) key) : AskedOnly ss₀ src (r.ask src q nothing).1.world.sources := by
  cases hs : r.world.sources.lookup src with
  | none =>
    rw [Run.ask_of_lookup_none r src q nothing hs]
    exact h
  | some s =>
    rw [Run.ask_of_lookup r src q nothing hs]
    intro src'
    obtain ⟨ks, hks, hk⟩ := h src'
    by_cases hsrc : src' = src
    · -- the asked source: its record grows by the keys of this question
      subst hsrc
      obtain ⟨ks', hks', hk'⟩ := hkey s
      refine ⟨ks ++ ks', ?_, fun k hmem => ?_⟩
      · rw [hs] at hks
        simp only [lookup_setEntry, if_true, Option.map_some, hks']
        cases h0 : ss₀.lookup src' with
        | none =>
          rw [h0] at hks
          cases hks
        | some s₀ =>
          rw [h0] at hks
          simp only [Option.map_some, Option.some.injEq] at hks ⊢
          rw [hks, List.append_assoc]
      · rcases List.mem_append.1 hmem with hmem | hmem
        · exact hk k hmem
        · exact ⟨rfl, key, hq, hk' k hmem⟩
    · rw [lookup_setEntry, if_neg hsrc]
      exact ⟨ks, hks, hk⟩

namespace Run

variable {S : LoadSetting} {r : Run} {j : Nat}

/-! ## Asking the source -/

/-- **Asking the source for names keeps a step going**, and the answer is the one the
source gave before the load. -/
theorem Stepping.askNames (h : r.Stepping S j) (d : Option Value)
    (hq : TextNames S.source → LoadQuestion S.source (.ofNames d)) :
    (r.ask S.src (·.askNames d) []).1.Stepping S j ∧
      (r.ask S.src (·.askNames d) []).2.outcome = namesAnswer S.source d := by
  obtain ⟨hout, hsrc⟩ := ask_askNames h.cache.sources.agree S.src d
  have hasked : TextNames S.source →
      AskedOnly S.sources S.src (r.ask S.src (·.askNames d) []).1.world.sources :=
    fun hs => (h.cache.sources.asked hs).ask (fun s => Source.asked_ask s _ _ _ _) (hq hs)
  exact ⟨h.world (by simp) (by simp) (by simp) (by simp) (by simp) (by simp) ⟨hsrc, hasked⟩, hout⟩

/-- **Asking the source for columns keeps a step going**, and the answer is the one the
source gave before the load. -/
theorem Stepping.askColumns (h : r.Stepping S j) (d t : Value)
    (hq : TextNames S.source → LoadQuestion S.source (.columns d t)) :
    (r.ask S.src (·.askColumns d t) []).1.Stepping S j ∧
      (r.ask S.src (·.askColumns d t) []).2.outcome = columnsAnswer S.source d t := by
  obtain ⟨hout, hsrc⟩ := ask_askColumns h.cache.sources.agree S.src d t
  have hasked : TextNames S.source →
      AskedOnly S.sources S.src (r.ask S.src (·.askColumns d t) []).1.world.sources :=
    fun hs => (h.cache.sources.asked hs).ask (fun s => Source.asked_ask s _ _ _ _) (hq hs)
  exact ⟨h.world (by simp) (by simp) (by simp) (by simp) (by simp) (by simp) ⟨hsrc, hasked⟩, hout⟩

/-- **A task that asks for names** yields with the source's answer, or goes on with it at
once; either way the invariant holds after the step, given that it holds after going on. -/
theorem Stepping.fetchNames (h : r.Stepping S j) (hstart : (r.task j).phase = .start)
    {d : Option Value}
    (hshape : S.Shape j { r.task j with phase := .gotNames (namesAnswer S.source d) })
    (hq : TextNames S.source → LoadQuestion S.source (.ofNames d))
    {go : Run → Except FetchError (List Value) → Run}
    (hgo : ∀ r', r'.Stepping S j → r'.tasks = r.tasks → r'.stores = r.stores →
      r'.groups = r.groups → (go r' (namesAnswer S.source d)).LoadInv S) :
    (r.fetchNames j S.src d go).LoadInv S := by
  obtain ⟨hst, hout⟩ := h.askNames d hq
  have htasks : (r.ask S.src (·.askNames d) []).1.tasks = r.tasks := by simp
  have hstores : (r.ask S.src (·.askNames d) []).1.stores = r.stores := by simp
  have hgroups : (r.ask S.src (·.askNames d) []).1.groups = r.groups := by simp
  unfold Run.fetchNames
  generalize r.ask S.src (·.askNames d) [] = a at hst hout htasks hstores hgroups
  obtain ⟨r', reply⟩ := a
  dsimp only at hst hout htasks hstores hgroups ⊢
  have htask : r'.task j = r.task j := task_eq_of_tasks htasks j
  rw [hout]
  split
  · -- the source yields: the task takes the answer up on its next step
    refine hst.yield (by rw [htask]; exact hstart) (by rw [htask]; exact hshape) fun g => ?_
    simp
  · exact hgo r' hst htasks hstores hgroups

/-- **A task that asks for columns** yields with the source's answer, or goes on with it
at once. -/
theorem Stepping.fetchColumns (h : r.Stepping S j) (hstart : (r.task j).phase = .start)
    {d t : Value}
    (hshape : S.Shape j { r.task j with phase := .gotColumns (columnsAnswer S.source d t) })
    (hq : TextNames S.source → LoadQuestion S.source (.columns d t))
    {go : Run → Except FetchError (List ColumnEntry) → Run}
    (hgo : ∀ r', r'.Stepping S j → r'.tasks = r.tasks → r'.stores = r.stores →
      r'.groups = r.groups → (go r' (columnsAnswer S.source d t)).LoadInv S) :
    (r.fetchColumns j S.src d t go).LoadInv S := by
  obtain ⟨hst, hout⟩ := h.askColumns d t hq
  have htasks : (r.ask S.src (·.askColumns d t) []).1.tasks = r.tasks := by simp
  have hstores : (r.ask S.src (·.askColumns d t) []).1.stores = r.stores := by simp
  have hgroups : (r.ask S.src (·.askColumns d t) []).1.groups = r.groups := by simp
  unfold Run.fetchColumns
  generalize r.ask S.src (·.askColumns d t) [] = a at hst hout htasks hstores hgroups
  obtain ⟨r', reply⟩ := a
  dsimp only at hst hout htasks hstores hgroups ⊢
  have htask : r'.task j = r.task j := task_eq_of_tasks htasks j
  rw [hout]
  split
  · refine hst.yield (by rw [htask]; exact hstart) (by rw [htask]; exact hshape) fun g => ?_
    simp
  · exact hgo r' hst htasks hstores hgroups

/-! ## The shapes a step leaves -/

/-- The loader in one of its phases. -/
theorem LoadSetting.Shape.loader {t : Task} (hrole : t.role = .loader S.name S.src S.gen)
    {p : Phase} (hp : p = .start ∨ p = .gotNames (namesAnswer S.source none) ∨
      ∃ grp, p = .grouped grp) : S.Shape 2 { t with phase := p } := by
  unfold LoadSetting.Shape
  dsimp only
  rw [hrole]
  exact ⟨rfl, rfl, rfl, rfl, hp⟩

/-- A database task in one of its phases. -/
theorem LoadSetting.Shape.database {t : Task} {d : Value} (hrole : t.role = .database 2 d)
    (hj : 3 ≤ j) {p : Phase} (hp : p = .start ∨ p = .gotNames (namesAnswer S.source (some d)) ∨
      ∃ grp, p = .grouped grp) : S.Shape j { t with phase := p } := by
  unfold LoadSetting.Shape
  dsimp only
  rw [hrole]
  exact ⟨rfl, hj, hp⟩

/-- A column task in one of its phases. -/
theorem LoadSetting.Shape.columns {t : Task} {d tb : Value} (hrole : t.role = .columns 2 d tb)
    (hj : 3 ≤ j) {p : Phase} (hp : p = .start ∨ p = .gotColumns (columnsAnswer S.source d tb)) :
    S.Shape j { t with phase := p } := by
  unfold LoadSetting.Shape
  dsimp only
  rw [hrole]
  exact ⟨rfl, hj, hp⟩

/-! ## What a task does with its answer -/

/-- In a clean run a database task's tables are answered, and so are their columns. -/
theorem LoadData.tables_answered (h : r.LoadData S) (hs : TextNames S.source)
    (hfs : (fetchedSnapshot S.source).isSome) {d : Value} (hrole : (r.task j).role = .database 2 d) :
    ∃ ts, namesAnswer S.source (some d) = .ok ts ∧ ∀ t ∈ ts, ∃ cs, columnsAnswer S.source d t = .ok cs := by
  obtain ⟨dbs, hdbs, hall⟩ := answers_of_fetchedSnapshot hs hfs
  obtain ⟨dbs', hdbs', hd⟩ := h.dbRole j d hrole
  rw [hdbs] at hdbs'
  cases hdbs'
  exact hall d hd

/-- In a clean run a column task's columns are answered. -/
theorem LoadData.columns_answered (h : r.LoadData S) (hs : TextNames S.source)
    (hfs : (fetchedSnapshot S.source).isSome) {d t : Value}
    (hrole : (r.task j).role = .columns 2 d t) : ∃ cs, columnsAnswer S.source d t = .ok cs := by
  obtain ⟨dbs, hdbs, hall⟩ := answers_of_fetchedSnapshot hs hfs
  obtain ⟨⟨dbs', hdbs', hd⟩, ts, hts, ht⟩ := h.columnsRole j d t hrole
  rw [hdbs] at hdbs'
  cases hdbs'
  obtain ⟨ts', hts', hall'⟩ := hall d hd
  rw [hts] at hts'
  cases hts'
  exact hall' t ht

/-- For a source that names things by texts, a database task's database is a text. -/
theorem LoadData.database_isText (h : r.LoadData S) (hs : TextNames S.source) {d : Value}
    (hrole : (r.task j).role = .database 2 d) : d.IsText := by
  obtain ⟨dbs, hdbs, hd⟩ := h.dbRole j d hrole
  exact hs.databases dbs hdbs d hd

/-- For a source that names things by texts, a column task's database and table are texts. -/
theorem LoadData.columns_isText (h : r.LoadData S) (hs : TextNames S.source) {d t : Value}
    (hrole : (r.task j).role = .columns 2 d t) : d.IsText ∧ t.IsText := by
  obtain ⟨⟨dbs, hdbs, hd⟩, ts, hts, ht⟩ := h.columnsRole j d t hrole
  exact ⟨hs.databases dbs hdbs d hd, hs.tables d ts hts t ht⟩

/-- Filing the tables of a database that is a text files them under it. -/
theorem LoadData.key_putTables (h : r.LoadData S) {d : Value} (hd : d.IsText) (ts : List Value) :
    ∃ e ∈ KeyMap.put (r.store 2).tables d ts, e.1 = d :=
  KeyMap.key_put fun e he hsame => (Value.same_iff_of_isText (h.tables e he).1 hd).1 hsame

/-- Filing the columns of a table of texts files them under it. -/
theorem LoadData.key_putColumns (h : r.LoadData S) {d t : Value} (hd : d.IsText) (ht : t.IsText)
    (cs : List ColumnEntry) : ∃ e ∈ KeyMap.put (r.store 2).columns (d, t) cs, e.1 = (d, t) := by
  refine KeyMap.key_put fun e he hsame => ?_
  obtain ⟨h1, h2, -⟩ := h.columns e he
  rw [SameKey.same_pair, Bool.and_eq_true] at hsame
  exact Prod.ext ((Value.same_iff_of_isText h1 hd).1 hsame.1) ((Value.same_iff_of_isText h2 ht).1 hsame.2)

/-- **The loader takes its databases.**  A failed answer fails the load; otherwise the
loader files the databases, starts a task for each in a new group, and checks it. -/
theorem Stepping.loaderDatabases (h : r.Stepping S 2)
    (hph : (r.task 2).phase = .start ∨ ∃ o, (r.task 2).phase = .gotNames o) :
    (r.loaderDatabases 2 (namesAnswer S.source none)).LoadInv S := by
  have hrole := h.moving.tree.loader_role h.moving.lt
  unfold Run.loaderDatabases
  cases hdbs : namesAnswer S.source none with
  | error e =>
    -- a source that fails to name its databases makes no snapshot
    refine h.loadFailed _ fun hs hfs => ?_
    obtain ⟨dbs, hdbs', -⟩ := answers_of_fetchedSnapshot hs hfs
    rw [hdbs] at hdbs'
    cases hdbs'
  | ok dbs =>
    obtain ⟨hsize, hgsize⟩ := h.moving.tree.fresh h.moving.unended hph
    have hstore := h.setStore (F := fun _ => { databases := dbs })
      fun hs => (h.data hs).reset h.moving.tree hsize hgsize dbs
    refine hstore.startExit hph (fun role hr c hc => ?_)
      (LoadSetting.Shape.loader hrole (.inr (.inr ⟨_, rfl⟩)))
      fun _ => ⟨fun _ => ⟨dbs, hdbs, by simp, rfl⟩, fun d hd => ?_⟩
    · obtain ⟨d, -, rfl⟩ := List.mem_map.1 hr
      exact LoadSetting.Shape.database (t := { role := .database 2 d }) rfl hc (.inl rfl)
    · -- the loader is no database task
      rw [task_setStore, hrole] at hd
      cases hd

/-- Ending a task that failed on its own: the failure names itself first, and a clean run
never gets here. -/
theorem Stepping.fail (h : r.Stepping S j) (h3 : 3 ≤ j) (f : LoadFailure)
    (hclean : TextNames S.source → (fetchedSnapshot S.source).isSome → False) :
    (r.finish j (.failed (.raise f))).LoadInv S :=
  h.finish h3 (fun _ _ he => by cases he) (fun _ he => by cases he; simp [Failure.first])
    (fun _ he => by cases he) fun hs hfs => (hclean hs hfs).elim

/-- **A database task takes its tables.**  A failed answer, or a database that cannot be
a key, fails the task; otherwise it files the tables, and ends if there are none, or
starts a task for each in a new group and checks it. -/
theorem Stepping.databaseTables (h : r.Stepping S j) (h3 : 3 ≤ j) {d : Value}
    (hrole : (r.task j).role = .database 2 d)
    (hph : (r.task j).phase = .start ∨ ∃ o, (r.task j).phase = .gotNames o) :
    (r.databaseTables j 2 d (namesAnswer S.source (some d))).LoadInv S := by
  unfold Run.databaseTables
  cases hts : namesAnswer S.source (some d) with
  | error e =>
    refine h.fail h3 _ fun hs hfs => ?_
    obtain ⟨ts, hts', -⟩ := (h.data hs).tables_answered hs hfs hrole
    rw [hts] at hts'
    cases hts'
  | ok ts =>
    cases hk : d.checkKey with
    | error m =>
      refine h.fail h3 _ fun hs _ => ?_
      rw [((h.data hs).database_isText hs hrole).checkKey] at hk
      cases hk
    | ok u =>
      dsimp only
      have hput := h.setStore (F := fun s => { s with tables := KeyMap.put s.tables d ts })
        fun hs => (h.data hs).putTables ((h.data hs).database_isText hs hrole) hts
      split
      · -- no table: the task ends well, its database filed
        rename_i hnil
        refine hput.finish h3 (fun _ _ he => by cases he) (fun _ he => by cases he)
          (fun hs _ => ?_) fun _ _ => rfl
        simp only [Filed, task_setStore, hrole, store_setStore_self]
        refine ⟨(h.data hs).key_putTables ((h.data hs).database_isText hs hrole) ts,
          fun ts' hts' t ht => ?_⟩
        rw [hts] at hts'
        cases hts'
        simp [List.isEmpty_iff.1 hnil] at ht
      · -- tables: a task for each, in a group the database task checks
        refine hput.startExit hph (fun role hr c hc => ?_)
          (LoadSetting.Shape.database hrole h3 (.inr (.inr ⟨_, rfl⟩)))
          fun hs => ⟨fun hj2 => by omega, fun d' hd' => ?_⟩
        · obtain ⟨t, -, rfl⟩ := List.mem_map.1 hr
          exact LoadSetting.Shape.columns (t := { role := .columns 2 d t }) rfl hc (.inl rfl)
        · rw [task_setStore, hrole] at hd'
          cases hd'
          refine ⟨?_, ts, hts, rfl⟩
          rw [store_setStore_self]
          exact (h.data hs).key_putTables ((h.data hs).database_isText hs hrole) ts

/-- **A column task takes its columns.**  A failed answer, or names that cannot be keys,
fail the task; otherwise it files the columns and ends well. -/
theorem Stepping.columnsFetched (h : r.Stepping S j) (h3 : 3 ≤ j) {d t : Value}
    (hrole : (r.task j).role = .columns 2 d t) :
    (r.columnsFetched j 2 d t (columnsAnswer S.source d t)).LoadInv S := by
  unfold Run.columnsFetched
  cases hcs : columnsAnswer S.source d t with
  | error e =>
    refine h.fail h3 _ fun hs hfs => ?_
    obtain ⟨cs, hcs'⟩ := (h.data hs).columns_answered hs hfs hrole
    rw [hcs] at hcs'
    cases hcs'
  | ok cs =>
    cases hk : d.checkKey *> t.checkKey with
    | error m =>
      refine h.fail h3 _ fun hs _ => ?_
      obtain ⟨hd, ht⟩ := (h.data hs).columns_isText hs hrole
      rw [hd.checkKey, ht.checkKey] at hk
      cases hk
    | ok u =>
      dsimp only
      have hput := h.setStore (F := fun s => { s with columns := KeyMap.put s.columns (d, t) cs })
        fun hs => (h.data hs).putColumns ((h.data hs).columns_isText hs hrole).1
          ((h.data hs).columns_isText hs hrole).2 hcs
      refine hput.finish h3 (fun _ _ he => by cases he) (fun _ he => by cases he)
        (fun hs _ => ?_) fun _ _ => rfl
      simp only [Filed, task_setStore, hrole, store_setStore_self]
      exact (h.data hs).key_putColumns ((h.data hs).columns_isText hs hrole).1
        ((h.data hs).columns_isText hs hrole).2 cs

/-! ## Cancels and group checks -/

/-- A task cancelled while it checks no group is cancelled by an aborting group it is a
member of: an owner checks its group until it ends. -/
theorem LoadTree.member_of_thrown (h : r.LoadTree S) (hend : (r.task j).ending = none)
    (hph : ∀ g, (r.task j).phase ≠ .grouped g)
    (hthrown : (∃ g < r.groups.size, r.Member g j ∧ (r.group g).aborting) ∨
      ∃ g < r.groups.size, (r.group g).owner = j ∧ (r.group g).aborting) :
    ∃ g < r.groups.size, r.Member g j ∧ (r.group g).aborting := by
  rcases hthrown with hm | ⟨g, hg, ho, -⟩
  · exact hm
  · rcases (h.owner g hg).2.2 with hph' | hend'
    · rw [ho] at hph'
      exact absurd hph' (hph g)
    · rw [ho, hend] at hend'
      cases hend'

/-- **A task cancelled before it checks a group ends cancelled.**  Its cancel comes from
the abort of the group it is a member of; a clean run has no cancel. -/
theorem Stepping.cancelled (h : r.Stepping S j) (h3 : 3 ≤ j)
    (hph : ∀ g, (r.task j).phase ≠ .grouped g)
    (hthrown : (∃ g < r.groups.size, r.Member g j ∧ (r.group g).aborting) ∨
      ∃ g < r.groups.size, (r.group g).owner = j ∧ (r.group g).aborting)
    (hclean : TextNames S.source → (fetchedSnapshot S.source).isSome → False) :
    (r.finish j .cancelled).LoadInv S := by
  obtain ⟨g, -, hm, hab⟩ := h.moving.tree.member_of_thrown h.moving.unended hph hthrown
  refine h.finish h3 (fun g' hm' _ => ?_) (fun _ he => by cases he) (fun _ he => by cases he)
    fun hs hfs => (hclean hs hfs).elim
  rw [← Member.unique hm hm']
  exact hab

/-- The loader is cancelled only while it checks its group: it is no member of a group. -/
theorem Stepping.loader_not_thrown (h : r.Stepping S 2) (hph : ∀ g, (r.task 2).phase ≠ .grouped g)
    (hthrown : (∃ g < r.groups.size, r.Member g 2 ∧ (r.group g).aborting) ∨
      ∃ g < r.groups.size, (r.group g).owner = 2 ∧ (r.group g).aborting) : False := by
  obtain ⟨g, -, hm, -⟩ := h.moving.tree.member_of_thrown h.moving.unended hph hthrown
  have := (h.moving.tree.member g 2 hm).1
  omega

/-- **An owner checks its group.**  A cancel from outside aborts the group first; the owner
then clears the group's outcome, and waits again while a member is live, or ends. -/
theorem Stepping.groupExit (h : r.Stepping S j) {g : Nat} (hph : (r.task j).phase = .grouped g)
    {thrown : Bool}
    (hthrown : thrown = true → (∃ g' < r.groups.size, r.Member g' j ∧ (r.group g').aborting) ∨
      ∃ g' < r.groups.size, (r.group g').owner = j ∧ (r.group g').aborting)
    (hclean : TextNames S.source → (fetchedSnapshot S.source).isSome → thrown = false) :
    (r.groupExit j g thrown).LoadInv S := by
  have h1 := h.exitCancel hph hthrown hclean
  have hph1 : ((r.exitCancel g thrown).task j).phase = .grouped g := by
    show ((r.exitCancel g thrown).task j).standing.2.1 = _
    rw [standing_exitCancel]
    exact hph
  obtain ⟨hg1, hown1⟩ := h1.moving.tree.grouped j g h1.moving.lower hph1
  have h2 := h1.clearFut hown1
  rw [groupExit_eq, groupResume_eq]
  split
  · rename_i hlive
    exact h2.wait (by simpa using hg1) (by simpa [hg1] using hown1) hph1 hlive
  · rename_i hlive
    exact h2.groupEnd hph1 (not_not.1 hlive)

/-! ## A step under the caller -/

/-- Tasks under the loader ask the loader's source. -/
theorem LoadTree.sourceOf_loader (h : r.LoadTree S) (hsize : 3 ≤ r.tasks.size) :
    r.sourceOf 2 = S.src := by
  unfold Run.sourceOf
  rw [h.loader_role (by omega)]

/-- A phase that is not a group's check. -/
theorem Phase.not_grouped {p : Phase} (hp : p = .start ∨ (∃ o, p = .gotNames o) ∨
    ∃ o, p = .gotColumns o) (g : Nat) : p ≠ .grouped g := by
  rcases hp with rfl | ⟨o, rfl⟩ | ⟨o, rfl⟩ <;> exact fun h => by cases h

/-- **A step of a task under the caller keeps the invariant.**  The task resumes by its
role and phase: cancelled before it checks a group it ends cancelled; otherwise it asks
its source, takes the answer it holds, or checks its group. -/
theorem LoadInv.step_under (h : r.LoadInv S) {th : Bool} {rest : List Event}
    (hq : r.queue = .step j th :: rest) (hj : 2 ≤ j) (hlt : j < r.tasks.size)
    (hend : (r.task j).ending = none) :
    (({ r with queue := rest } : Run).handle (.step j th)).LoadInv S := by
  have hst := h.stepping hq hj hlt hend
  have hshape := h.tree.shape j hj hlt
  have hthrown := h.thrown_source hq hj
  have hclean : TextNames S.source → (fetchedSnapshot S.source).isSome →
      (th || (r.task j).mustCancel) = false := fun hs hfs => (h.clean hs hfs).not_thrown hq hj
  have hc := calmer_setTask_clear ({ r with queue := rest } : Run) j j
  have htj : ({ r with queue := rest } : Run).task j = r.task j := rfl
  simp only [handle]
  rw [stepTask_eq, htj, hend]
  simp only [Option.isSome_none, Bool.false_eq_true, ↓reduceIte]
  generalize hr1 : ({ r with queue := rest } : Run).setTask j
    (fun t => { t with mustCancel := false, waitsOn := none }) = r1 at hst hc
  rw [htj] at hc
  -- the stepping run has the groups and memberships of the run before the step
  have hgroups : r1.groups = r.groups := by rw [← hr1]; rfl
  have hthrown1 : (th || (r.task j).mustCancel) = true →
      (∃ g < r1.groups.size, r1.Member g j ∧ (r1.group g).aborting) ∨
        ∃ g < r1.groups.size, (r1.group g).owner = j ∧ (r1.group g).aborting := fun ht => by
    simp only [hgroups, member_iff hc.callbacks, group_eq_of_groups hgroups]
    exact hthrown ht
  generalize (th || (r.task j).mustCancel) = thrown at hthrown1 hclean
  have hnone : TextNames S.source → (fetchedSnapshot S.source).isSome → thrown = true → False :=
    fun hs hfs ht => by rw [hclean hs hfs] at ht; cases ht
  have hsrc := hst.moving.tree.sourceOf_loader hst.top.size
  have hph := hc.phase
  have hrole := hc.role
  -- the task's role and phase are those its shape allows
  unfold LoadSetting.Shape at hshape
  cases hR : (r.task j).role with
  | client => rw [hR] at hshape; exact hshape.elim
  | caller => rw [hR] at hshape; exact hshape.elim
  | loader n s gen =>
    rw [hR] at hshape
    obtain ⟨rfl, rfl, rfl, rfl, hph'⟩ := hshape
    rcases hph' with hp | hp | ⟨grp, hp⟩ <;> rw [hp] <;> simp only [resume]
    · cases thrown
      · simp only [Bool.false_eq_true, ↓reduceIte]
        refine (hst.note _ _).fetchNames (hph.trans hp)
          (LoadSetting.Shape.loader (hrole.trans hR) (.inr (.inl rfl))) (fun _ => trivial)
          fun r' h' ht _ _ => ?_
        refine h'.loaderDatabases (.inl ?_)
        rw [task_eq_of_tasks ht]
        exact hph.trans hp
      · exact (hst.loader_not_thrown (Phase.not_grouped (.inl (hph.trans hp)))
          (hthrown1 rfl)).elim
    · cases thrown
      · exact hst.loaderDatabases (.inr ⟨_, hph.trans hp⟩)
      · exact (hst.loader_not_thrown (Phase.not_grouped (.inr (.inl ⟨_, hph.trans hp⟩)))
          (hthrown1 rfl)).elim
    · exact hst.groupExit (hph.trans hp) hthrown1 hclean
  | database l d =>
    rw [hR] at hshape
    obtain ⟨rfl, h3, hph'⟩ := hshape
    have hrole' := hrole.trans hR
    rcases hph' with hp | hp | ⟨grp, hp⟩ <;> rw [hp] <;> simp only [resume]
    · cases thrown
      · simp only [Bool.false_eq_true, ↓reduceIte]
        rw [hsrc]
        refine hst.fetchNames (hph.trans hp) (LoadSetting.Shape.database hrole' h3 (.inr (.inl rfl)))
          (fun hs => (hst.data hs).dbRole j d hrole') fun r' h' ht _ _ => ?_
        refine h'.databaseTables h3 (by rw [task_eq_of_tasks ht]; exact hrole') (.inl ?_)
        rw [task_eq_of_tasks ht]
        exact hph.trans hp
      · exact hst.cancelled h3 (Phase.not_grouped (.inl (hph.trans hp))) (hthrown1 rfl)
          fun hs hfs => hnone hs hfs rfl
    · cases thrown
      · exact hst.databaseTables h3 hrole' (.inr ⟨_, hph.trans hp⟩)
      · exact hst.cancelled h3 (Phase.not_grouped (.inr (.inl ⟨_, hph.trans hp⟩)))
          (hthrown1 rfl) fun hs hfs => hnone hs hfs rfl
    · exact hst.groupExit (hph.trans hp) hthrown1 hclean
  | columns l d tb =>
    rw [hR] at hshape
    obtain ⟨rfl, h3, hph'⟩ := hshape
    have hrole' := hrole.trans hR
    rcases hph' with hp | hp <;> rw [hp] <;> simp only [resume]
    · cases thrown
      · simp only [Bool.false_eq_true, ↓reduceIte]
        rw [hsrc]
        refine hst.fetchColumns (hph.trans hp) (LoadSetting.Shape.columns hrole' h3 (.inr rfl))
          (fun hs => (hst.data hs).columnsRole j d tb hrole') fun r' h' ht _ _ => ?_
        exact h'.columnsFetched h3 (by rw [task_eq_of_tasks ht]; exact hrole')
      · exact hst.cancelled h3 (Phase.not_grouped (.inl (hph.trans hp))) (hthrown1 rfl)
          fun hs hfs => hnone hs hfs rfl
    · cases thrown
      · exact hst.columnsFetched h3 hrole'
      · exact hst.cancelled h3 (Phase.not_grouped (.inr (.inr ⟨_, hph.trans hp⟩)))
          (hthrown1 rfl) fun hs hfs => hnone hs hfs rfl

/-! ## Every turn -/

/-- **Every turn of a lone load keeps its invariant.**  The client's and the caller's steps,
a step of a task that has ended or is not there, a step under the caller, a member's end
noted by its group, the forgetting of the loader and the relay of its ending each keep
it. -/
theorem LoadInv.handle (h : r.LoadInv S) {e : Event} {rest : List Event}
    (hq : r.queue = e :: rest) : (({ r with queue := rest } : Run).handle e).LoadInv S := by
  cases e with
  | step i th =>
    match i with
    | 0 => exact h.step_client hq
    | 1 => exact h.step_caller hq
    | j + 2 =>
      by_cases hi : (r.task (j + 2)).ending.isSome ∨ r.tasks.size ≤ j + 2
      · exact h.step_ended hq hi
      · rw [not_or, Bool.not_eq_true, Option.isSome_eq_false_iff, Option.isNone_iff_eq_none,
          not_le] at hi
        exact h.step_under hq (by omega) hi.2 hi.1
  | childDone g c => exact h.childDone hq
  | forget n l => exact h.forget hq
  | relay l f => exact h.relay hq

end Run

end SqlAssist.Schema
