import SqlAssist.Proofs.Schema.Budget
import SqlAssist.Proofs.Schema.Fetched

/-!
# The run of a lone load

A load or refresh with nothing else in flight runs as a tree of tasks.  After its first
three turns the client waits on its caller (task 1), the caller waits on the shared
outcome of the loader (task 2), and the loader has its first step queued.  From there on
the loader asks for the databases, starts one task per database in a task group, each of
those asks for its tables and starts one task per table in a group of its own, and each
of those asks for its columns.  A failure is recorded by its group, which cancels its
other members and its owner; an owner ends once all of its members have ended.

`LoadInv` is what holds of every state of that run.  It is split by subject:

* `LoadTop`: the client, the caller and the loader, and the shared outcome between the
  caller and the loader;
* `LoadTree`: the tasks under the loader and their groups: who is a member of what, why
  every unended task will run again, and where cancels and failures come from;
* `LoadData`: what the loader's store holds, for a source that names things by texts;
* `LoadCache`: the cache and the sources, and the questions the sources were asked;
* `LoadClean`: a source whose every answer is a list of texts causes no failure.

The statements here only set the invariant up; the steps that keep it are in
`SqlAssist.Proofs.Schema.LoadSteps`.
-/

namespace SqlAssist.Schema

/-- The questions a load may ask its source: the databases; the tables of a database the
source lists; the columns of a table the source lists for such a database. -/
def LoadQuestion (source : Option Source) : FetchKey → Prop
  | .databases => True
  | .tables d => ∃ dbs, namesAnswer source none = .ok dbs ∧ d ∈ dbs
  | .columns d t => (∃ dbs, namesAnswer source none = .ok dbs ∧ d ∈ dbs) ∧
      ∃ ts, namesAnswer source (some d) = .ok ts ∧ t ∈ ts

/-- The sources `ss`, which were `ss₀`, have been asked only the questions of a load from
`src`, and only `src` has been asked: each source's record of the keys it was asked is its
record in `ss₀` followed by such keys. -/
def AskedOnly (ss₀ : List (String × Source)) (src : String) (ss : List (String × Source)) :
    Prop :=
  ∀ src', ∃ ks : List String,
    (ss.lookup src').map Source.asked = (ss₀.lookup src').map (·.asked ++ ks) ∧
      ∀ k ∈ ks, src' = src ∧ ∃ q, LoadQuestion (ss₀.lookup src) q ∧ k = q.text

/-- What a lone load starts from: the name and the source it loads, whether its caller
refreshes, the cache as the caller's start left it, and the world's sources before the
load.  The caller's start records the loader, task 2, as the load in flight. -/
structure LoadSetting where
  name : String
  src : String
  refresh : Bool
  cache : Cache
  sources : List (String × Source)
  loaderInFlight : cache.inflight.lookup name = some 2

namespace LoadSetting

variable (S : LoadSetting)

/-- The generation the loader starts under. -/
def gen : Nat := S.cache.generation S.name

/-- The source the load reads, as it stands before the load. -/
def source : Option Source := S.sources.lookup S.src

/-- What a task under the caller may be doing: the loader (task 2) or a database task at
its start, holding its source's answer, or checking its group; a column task at its start
or holding its answer.  Every answer held is the source's answer to the task's question. -/
def Shape (j : Nat) (t : Task) : Prop :=
  match t.role with
  | .loader n s g => n = S.name ∧ s = S.src ∧ g = S.gen ∧ j = 2 ∧
      (t.phase = .start ∨ t.phase = .gotNames (namesAnswer S.source none) ∨
        ∃ grp, t.phase = .grouped grp)
  | .database l d => l = 2 ∧ 3 ≤ j ∧
      (t.phase = .start ∨ t.phase = .gotNames (namesAnswer S.source (some d)) ∨
        ∃ grp, t.phase = .grouped grp)
  | .columns l d tb => l = 2 ∧ 3 ≤ j ∧
      (t.phase = .start ∨ t.phase = .gotColumns (columnsAnswer S.source d tb))
  | _ => False

/-- The sources as a load leaves them: they answer as before, and a source that names
things by texts has been asked only the load's questions. -/
structure SourcesFrom (ss : List (String × Source)) : Prop where
  agree : SourcesAgree S.sources ss
  asked : TextNames S.source → AskedOnly S.sources S.src ss

end LoadSetting

namespace Run

/-- Task `c` is a member of group `g`: its one callback notes its end to the group. -/
def Member (r : Run) (g c : Nat) : Prop := (r.task c).callbacks = [.childDone g]

/-- A step of task `j` is queued. -/
def StepQueued (r : Run) (j : Nat) : Prop := ∃ thrown, Event.step j thrown ∈ r.queue

variable (S : LoadSetting) (r : Run)

/-- Task `j` will run again unless it has ended: a step of it is queued, or it waits on
its group's pending outcome while a member of the group is live. -/
def Progress (j : Nat) : Prop :=
  (r.task j).ending = none →
    r.StepQueued j ∨ ∃ g f, (r.task j).phase = .grouped g ∧ (r.group g).fut = some f ∧
      (r.task j).waitsOn = some f ∧ (r.fut f).state = .pending ∧ (r.fut f).waiters = [j] ∧
      (r.group g).live ≠ []

/-- The client, the caller and the loader. -/
structure LoadTop : Prop where
  size : 3 ≤ r.tasks.size
  client : (r.task 0).role = .client ∧ (r.task 0).callbacks = []
  /-- The client has issued the caller and waits on it. -/
  clientPhase : (r.task 0).phase = .awaiting [1]
  /-- The client waits on the caller until the caller's wake is queued. -/
  clientWaits : (r.task 0).ending = none → (r.task 1).ending = none ∨ .step 0 false ∈ r.queue
  clientDone : (r.task 0).ending = none ∨ (r.task 0).ending = some .ok
  clientStep : ∀ thrown, .step 0 thrown ∈ r.queue → (r.task 1).ending.isSome
  caller : (r.task 1).role = .caller S.name S.src S.refresh ∧ (r.task 1).callbacks = [.wake 0] ∧
    (r.task 1).phase = .shielded 0
  /-- The outcome the caller waits on: pending until the loader's relay, then the loader's
  ending. -/
  fut : 0 < r.futs.size ∧ (r.fut 0).waiters = [1]
  futState : ((r.fut 0).state = .pending ∧ ((r.task 2).ending = none ∨ .relay 2 0 ∈ r.queue)) ∨
    ∃ e, (r.fut 0).state = .resolved e ∧ (r.task 2).ending = some e
  callerWaits : (r.task 1).ending = none →
    (r.fut 0).state = .pending ∨ .step 1 false ∈ r.queue
  callerDone : ∀ e, (r.task 1).ending = some e → (r.task 2).ending = some e
  callerStep : ∀ thrown, .step 1 thrown ∈ r.queue → ∃ e, (r.fut 0).state = .resolved e
  relay : ∀ l f, .relay l f ∈ r.queue → l = 2 ∧ f = 0 ∧ (r.task 2).ending.isSome
  loader : (r.task 2).callbacks = [.forget S.name, .relay 0]
  loaderEnding : (r.task 2).ending ≠ some .cancelled
  /-- The only forgetting queued is that of the loader's end. -/
  forgets : ∀ n l, .forget n l ∈ r.queue → n = S.name ∧ l = 2
  /-- The cache records the loader as the load in flight until the loader's end is
  forgotten, and then records no load of the name. -/
  inflight : (r.world.cache.inflight = S.cache.inflight ∧
      ((r.task 2).ending = none ∨ .forget S.name 2 ∈ r.queue)) ∨
    r.world.cache.inflight = eraseKey S.cache.inflight S.name

/-- The tasks under the loader and their groups. -/
structure LoadTree : Prop where
  shape : ∀ j, 2 ≤ j → j < r.tasks.size → S.Shape j (r.task j)
  /-- Before the loader has its databases, it is the last task and there is no group. -/
  fresh : (r.task 2).ending = none →
    ((r.task 2).phase = .start ∨ ∃ o, (r.task 2).phase = .gotNames o) →
    r.tasks.size = 3 ∧ r.groups.size = 0
  /-- Every task under the loader's own is a member of a group, and only those are. -/
  sub : ∀ j, 3 ≤ j → j < r.tasks.size → ∃ g < r.groups.size, r.Member g j
  member : ∀ g c, r.Member g c → 3 ≤ c ∧ c < r.tasks.size ∧ g < r.groups.size
  /-- An owner checks its group until it ends. -/
  owner : ∀ g < r.groups.size, 2 ≤ (r.group g).owner ∧ (r.group g).owner < r.tasks.size ∧
    ((r.task (r.group g).owner).phase = .grouped g ∨ (r.task (r.group g).owner).ending.isSome)
  grouped : ∀ j g, 2 ≤ j → (r.task j).phase = .grouped g → g < r.groups.size ∧ (r.group g).owner = j
  live : ∀ g < r.groups.size, (r.group g).live.Nodup ∧
    ∀ c ∈ (r.group g).live, r.Member g c ∧ (r.group g).owner < c ∧ c < r.tasks.size
  /-- A live member has not ended, or its end is queued for the group to note. -/
  livePending : ∀ g < r.groups.size, ∀ c ∈ (r.group g).live,
    (r.task c).ending = none ∨ .childDone g c ∈ r.queue
  /-- A member the group has noted ended well, or the group has failed or is aborting. -/
  noted : ∀ g < r.groups.size, ∀ c < r.tasks.size, r.Member g c → c ∉ (r.group g).live →
    (r.task c).ending.isSome ∧
      ((r.task c).ending = some .ok ∨ (r.group g).errors ≠ [] ∨ (r.group g).aborting)
  childDone : ∀ g c, .childDone g c ∈ r.queue →
    g < r.groups.size ∧ c < r.tasks.size ∧ r.Member g c ∧ (r.task c).ending.isSome
  groupFut : ∀ g < r.groups.size, ∀ f, (r.group g).fut = some f → (r.fut f).state = .pending →
    (r.fut f).waiters = [(r.group g).owner]
  waitsOn : ∀ j f, 2 ≤ j → (r.task j).waitsOn = some f → (r.fut f).state = .pending →
    (r.fut f).waiters = [j]
  errors : ∀ g < r.groups.size, ∀ f ∈ (r.group g).errors, f.first ≠ none
  failed : ∀ j f, 2 ≤ j → (r.task j).ending = some (.failed f) → f.first ≠ none
  /-- A group aborts because a member failed, or because its owner was cancelled from
  outside. -/
  abortReason : ∀ g < r.groups.size, (r.group g).aborting →
    (r.group g).errors ≠ [] ∨ (r.group g).outsideCancel
  /-- An owner is cancelled from outside only by the abort of a group it is a member of. -/
  outside : ∀ g < r.groups.size, (r.group g).outsideCancel →
    ∃ g' < r.groups.size, r.Member g' (r.group g).owner ∧ (r.group g').aborting
  cancelled : ∀ g < r.groups.size, ∀ c, r.Member g c → (r.task c).ending = some .cancelled →
    (r.group g).aborting
  /-- A cancel reaches a task only from an aborting group it is a member or the owner of. -/
  cancelSource : ∀ j, 2 ≤ j → ((r.task j).mustCancel = true ∨ .step j true ∈ r.queue) →
    (∃ g < r.groups.size, r.Member g j ∧ (r.group g).aborting) ∨
      (∃ g < r.groups.size, (r.group g).owner = j ∧ (r.group g).aborting)

/-- What a task under the loader has filed in the loader's store: a database task the
tables of its database and the columns of each of those tables, a column task the
columns of its table. -/
def Filed (j : Nat) : Prop :=
  match (r.task j).role with
  | .database _ d => (∃ e ∈ (r.store 2).tables, e.1 = d) ∧
      ∀ ts, namesAnswer S.source (some d) = .ok ts → ∀ t ∈ ts,
        ∃ e ∈ (r.store 2).columns, e.1 = (d, t)
  | .columns _ d t => ∃ e ∈ (r.store 2).columns, e.1 = (d, t)
  | _ => True

/-- What the loader's store holds, for a source that names things by texts: the tables and
columns of the source, and all of them for every task that ended well. -/
structure LoadData : Prop where
  tables : ∀ e ∈ (r.store 2).tables, e.1.IsText ∧ namesAnswer S.source (some e.1) = .ok e.2
  columns : ∀ e ∈ (r.store 2).columns,
    e.1.1.IsText ∧ e.1.2.IsText ∧ columnsAnswer S.source e.1.1 e.1.2 = .ok e.2
  dbRole : ∀ j d, (r.task j).role = .database 2 d →
    ∃ dbs, namesAnswer S.source none = .ok dbs ∧ d ∈ dbs
  columnsRole : ∀ j d t, (r.task j).role = .columns 2 d t →
    (∃ dbs, namesAnswer S.source none = .ok dbs ∧ d ∈ dbs) ∧
      ∃ ts, namesAnswer S.source (some d) = .ok ts ∧ t ∈ ts
  /-- The loader's group has a member for every database the loader filed, and a database
  task's group a member for every table. -/
  cover : ∀ g < r.groups.size,
    ((r.group g).owner = 2 → ∃ dbs, namesAnswer S.source none = .ok dbs ∧
      (r.store 2).databases = dbs ∧ ∀ d ∈ dbs, ∃ c, r.Member g c ∧ (r.task c).role = .database 2 d) ∧
    (∀ d, (r.task (r.group g).owner).role = .database 2 d →
      ∃ ts, namesAnswer S.source (some d) = .ok ts ∧
        ∀ t ∈ ts, ∃ c, r.Member g c ∧ (r.task c).role = .columns 2 d t)
  /-- A database task files its tables before it starts its group. -/
  dbGrouped : ∀ j d g, 2 ≤ j → (r.task j).role = .database 2 d → (r.task j).phase = .grouped g →
    ∃ e ∈ (r.store 2).tables, e.1 = d
  filed : ∀ j, 2 ≤ j → (r.task j).ending = some .ok → r.Filed S j

/-- The cache changes only by the loader's publication, and the sources only by being asked
the load's questions, which they answer as before. -/
structure LoadCache : Prop where
  others : ∀ n, n ≠ S.name → r.world.cache.snapshot? n = S.cache.snapshot? n
  unpublished : (r.task 2).ending ≠ some .ok →
    r.world.cache.snapshot? S.name = S.cache.snapshot? S.name
  published : TextNames S.source → (r.task 2).ending = some .ok →
    r.world.cache.snapshot? S.name = fetchedSnapshot S.source ∧
      (fetchedSnapshot S.source).isSome
  /-- A loader that ended well has published a snapshot, whatever its source names. -/
  publishedSome : (r.task 2).ending = some .ok → (r.world.cache.snapshot? S.name).isSome
  generations : r.world.cache.generations = S.cache.generations
  sources : S.SourcesFrom r.world.sources

/-- Nothing under the caller fails and nothing is cancelled. -/
structure LoadClean : Prop where
  endings : ∀ j e, 2 ≤ j → (r.task j).ending = some e → e = .ok
  groups : ∀ g, (r.group g).errors = [] ∧ (r.group g).aborting = false ∧
    (r.group g).outsideCancel = false
  noCancel : ∀ j, 2 ≤ j → (r.task j).mustCancel = false ∧ .step j true ∉ r.queue

/-- **The invariant of a lone load's run.** -/
structure LoadInv : Prop where
  top : r.LoadTop S
  tree : r.LoadTree S
  progress : ∀ j, 2 ≤ j → j < r.tasks.size → r.Progress j
  data : TextNames S.source → r.LoadData S
  cache : r.LoadCache S
  clean : TextNames S.source → (fetchedSnapshot S.source).isSome → r.LoadClean

end Run

end SqlAssist.Schema
