import SqlAssist.Schema.Cache
import SqlAssist.Schema.Source
import SqlAssist.Schema.LoadError
import SqlAssist.Log

/-!
# Running schema loads

A schema load fans out over tasks that take turns: the *loader* fetches the database
list, then starts one *database task* per database, each of which fetches its tables and
starts one *column task* per table.  The database tasks of a loader form a task group,
and so do the column tasks of a database task; a group's owner waits for all its members
before it goes on.  *Callers* ask the cache for a load and wait for it, and a *client*
issues the callers of one request in order; it may also clear a name, or cancel a caller it
issued while the caller waits.  A caller waits on a shield of its load: cancelling the
caller ends the caller, and the load goes on for whoever else waits on it.

## Turns

Tasks run one at a time.  Whatever becomes ready to run is put at the back of one queue
(`Run.queue`), and the front of the queue runs next: a task's next step, or the
bookkeeping that follows a task's end (its group noting it, the cache forgetting a
finished load, a waiting caller being handed the outcome).  A source that answers after
yielding puts its asker back at the end of the queue for one turn.

## Groups

When a member of a group fails, the group records the failure and, on the first
failure, cancels its other members and its owner.  A member cancelled before it has
started never asks its question; one cancelled while yielding stops there.  The owner
goes on waiting until every member has ended, then fails with the group's failures in
the order they were recorded; a cancelled owner whose group recorded no failure ends
cancelled.  A loader that fails reports the first recorded failure, looking into the
first failure of a nested group.  A member whose own group is still winding down ends
later than one that failed directly, so the recorded order need not be the order in
which the fetches failed.

## Publishing

A loader assembles its snapshot from everything its tasks fetched and publishes it only
if the generation of its name is still the one it started under.  A load that a clear
overtook is discarded; its failure is still reported to its callers.

## Budget

Every turn handles one event.  `Run.turns` bounds the turns a run still takes when no
source answers more than a given number of items: each task counts what it may still
start, wait for and queue, each pending outcome the waiters it wakes, each group the
cancels it may send.  A plan is carried out with that bound as its number of turns.
-/

namespace SqlAssist.Schema

-- Counts are summed from `countZero`, whatever other instances are loaded.
attribute [local instance] countZero

/-- What a client asks of the cache, in order. -/
inductive Plan
  | load (name source : String)
  | refresh (name source : String)
  | clear (name : String)
  /-- Cancel the caller issued for the plan's entry `entry`, counted from `0`, if that entry
  issued one. -/
  | cancel (entry : Nat)

/-- A failure raised inside a run: what a load raises, or the failures a task group
recorded. -/
inductive Failure
  | raise (f : LoadFailure)
  | group (fs : List Failure)

/-- The first raised failure of a failure, looking into the first member of each group. -/
def Failure.first : Failure → Option LoadFailure
  | .raise f => some f
  | .group [] => none
  | .group (f :: _) => f.first

/-- How a task ended. -/
inductive Ending
  | ok
  | failed (f : Failure)
  | cancelled

/-- The part a task plays in a run. -/
inductive Role
  | client
  | caller (name source : String) (refresh : Bool)
  | loader (name source : String) (generation : Nat)
  | database (loader : Nat) (name : Value)
  | columns (loader : Nat) (database table : Value)

/-- Where a task stands between two of its steps. -/
inductive Phase
  | start
  /-- Resumes with the answer of a fetch for names that yielded. -/
  | gotNames (outcome : Except FetchError (List Value))
  /-- Resumes with the answer of a fetch for columns that yielded. -/
  | gotColumns (outcome : Except FetchError (List ColumnEntry))
  /-- Waits for every member of its task group to end. -/
  | grouped (group : Nat)
  /-- A caller waiting for the outcome of a shared load. -/
  | shielded (fut : Nat)
  /-- A client with the rest of its plan to issue. -/
  | issuing (rest : List Plan)
  /-- A client waiting for its callers, in order. -/
  | awaiting (rest : List Nat)

/-- What follows the end of a task. -/
inductive Callback
  /-- The group notes that one of its members ended. -/
  | childDone (group : Nat)
  /-- The cache forgets the finished load of a name. -/
  | forget (name : String)
  /-- The outcome is handed to a waiting caller. -/
  | relay (fut : Nat)
  /-- A waiting client resumes. -/
  | wake (task : Nat)

/-- One task of a run. -/
structure Task where
  role : Role
  phase : Phase := .start
  /-- Cancelled while not waiting on anything: its next step is cancelled. -/
  mustCancel : Bool := false
  /-- The pending outcome it waits on, which a cancel would cancel. -/
  waitsOn : Option Nat := none
  ending : Option Ending := none
  callbacks : List Callback := []

instance : Inhabited Task := ⟨{ role := .client }⟩

/-- The state of a pending outcome that a task waits on. -/
inductive FutState
  | pending
  | resolved (e : Ending)
  | cancelled

/-- A pending outcome and the tasks that wait on it. -/
structure Fut where
  state : FutState := .pending
  waiters : List Nat := []
  deriving Inhabited

/-- A task group. -/
structure Group where
  owner : Nat
  /-- Members whose end the group has not yet noted, in creation order. -/
  live : List Nat := []
  errors : List Failure := []
  aborting : Bool := false
  ownerCancelled : Bool := false
  /-- The pending outcome the owner waits on. -/
  fut : Option Nat := none
  /-- The owner was cancelled from outside while waiting. -/
  outsideCancel : Bool := false
  deriving Inhabited

/-- What a loader's tasks have fetched so far. -/
structure Store where
  databases : List Value := []
  tables : KeyMap Value (List Value) := []
  columns : KeyMap (Value × Value) (List ColumnEntry) := []
  deriving Inhabited

/-- Something ready to run. -/
inductive Event
  | step (task : Nat) (thrown : Bool)
  | childDone (group child : Nat)
  | forget (name : String) (loader : Nat)
  | relay (loader fut : Nat)

/-- Everything a run can change: the cache, the sources and the log. -/
structure World where
  cache : Cache := {}
  sources : List (String × Source) := []
  log : List Log.Record := []

/-- The component name of the cache's log records. -/
def cacheComponent : String := "abcql.sqlintel.cache"

/-- The state of a run. -/
structure Run where
  world : World
  tasks : Array Task := #[]
  futs : Array Fut := #[]
  groups : Array Group := #[]
  stores : List (Nat × Store) := []
  queue : List Event := []
  /-- The caller issued for each entry of the client's plan (none for a clear or a cancel). -/
  issued : List (Option Nat) := []

namespace Run

def task (r : Run) (i : Nat) : Task := r.tasks[i]?.getD default
def fut (r : Run) (i : Nat) : Fut := r.futs[i]?.getD default
def group (r : Run) (i : Nat) : Group := r.groups[i]?.getD default
def store (r : Run) (i : Nat) : Store := (r.stores.lookup i).getD {}

def setTask (r : Run) (i : Nat) (f : Task → Task) : Run := { r with tasks := r.tasks.modify i f }
def setGroup (r : Run) (i : Nat) (f : Group → Group) : Run := { r with groups := r.groups.modify i f }
def setStore (r : Run) (i : Nat) (f : Store → Store) : Run :=
  { r with stores := setEntry r.stores i (f (r.store i)) }
def setCache (r : Run) (f : Cache → Cache) : Run :=
  { r with world := { r.world with cache := f r.world.cache } }
def enqueue (r : Run) (e : Event) : Run := { r with queue := r.queue ++ [e] }

/-- Add a log record from the cache. -/
def note (r : Run) (level : Log.Level) (msg : String) : Run :=
  { r with world := { r.world with log := r.world.log ++ [⟨level, cacheComponent, msg⟩] } }

/-- Ask the source named `src` one question with `ask`; a missing source answers nothing
after yielding. -/
def ask {α : Type} (r : Run) (src : String) (ask : Source → Source × Reply α) (nothing : α) :
    Run × Reply α :=
  match r.world.sources.lookup src with
  | some s =>
    let (s, reply) := ask s
    ({ r with world := { r.world with sources := setEntry r.world.sources src s } }, reply)
  | none => (r, ⟨true, .ok nothing⟩)

/-- Start a task: it runs at the back of the queue. -/
def spawn (r : Run) (role : Role) (callbacks : List Callback) (phase : Phase := .start) :
    Run × Nat :=
  let i := r.tasks.size
  (({ r with tasks := r.tasks.push { role, phase, callbacks } }).enqueue (.step i false), i)

/-- End a task and queue what follows its end. -/
def finish (r : Run) (i : Nat) (e : Ending) : Run :=
  let cbs := (r.task i).callbacks
  let r := r.setTask i fun t => { t with ending := some e, waitsOn := none }
  cbs.foldl (fun r cb => r.enqueue (match cb with
    | .childDone g => .childDone g i
    | .forget n => .forget n i
    | .relay f => .relay i f
    | .wake j => .step j false)) r

/-- A new pending outcome with one waiter. -/
def newFut (r : Run) (waiter : Nat) : Run × Nat :=
  ({ r with futs := r.futs.push { waiters := [waiter] } }, r.futs.size)

/-- Settle a pending outcome and queue its waiters; a settled one stays as it is. -/
def settle (r : Run) (f : Nat) (st : FutState) : Run :=
  match (r.fut f).state with
  | .pending =>
    let ws := (r.fut f).waiters
    let thrown := match st with | .cancelled => true | _ => false
    let r := { r with futs := r.futs.modify f fun x => { x with state := st } }
    ws.foldl (fun r w => r.enqueue (.step w thrown)) r
  | _ => r

/-- Whether an outcome is still pending. -/
def isPending (r : Run) (f : Nat) : Bool :=
  match (r.fut f).state with
  | .pending => true
  | _ => false

/-- Cancel a task: cancel the pending outcome it waits on, or else mark its next step. -/
def cancelTask (r : Run) (i : Nat) : Run :=
  let t := r.task i
  if t.ending.isSome then r
  else match t.waitsOn with
    | some f => if r.isPending f then r.settle f .cancelled
      else r.setTask i fun t => { t with mustCancel := true }
    | none => r.setTask i fun t => { t with mustCancel := true }

/-- Cancel the members of a group that have not ended. -/
def abort (r : Run) (g : Nat) : Run :=
  let r := r.setGroup g fun x => { x with aborting := true }
  (r.group g).live.foldl (fun r t => r.cancelTask t) r

/-- The group `g` notes that its member `child` ended. -/
def childDone (r : Run) (g child : Nat) : Run :=
  let r := r.setGroup g fun x => { x with live := x.live.erase child }
  let grp := r.group g
  let r := match grp.fut with
    | some f => if grp.live.isEmpty then r.settle f (.resolved .ok) else r
    | none => r
  match (r.task child).ending with
  | some (.failed fl) =>
    let r := r.setGroup g fun x => { x with errors := x.errors ++ [fl] }
    if !grp.aborting && !grp.ownerCancelled then
      let r := r.abort g
      let r := r.setGroup g fun x => { x with ownerCancelled := true }
      r.cancelTask grp.owner
    else r
  | _ => r

/-- A new group owned by `owner`, its members started with the given roles. -/
def startGroup (r : Run) (owner : Nat) (roles : List Role) : Run × Nat :=
  let g := r.groups.size
  let r := { r with groups := r.groups.push { owner } }
  let (r, ids) := roles.foldl (fun (acc : Run × List Nat) role =>
    let (r, c) := acc.1.spawn role [.childDone g]
    (r, acc.2 ++ [c])) (r, [])
  (r.setGroup g fun x => { x with live := ids }, g)

/-- The loader `i` fails; a load error is logged first. -/
def loadFailed (r : Run) (i : Nat) (f : LoadFailure) : Run :=
  let r := match f with
    | .stage _ => r.note .warning "Schema load failed"
    | .misuse _ => r
  r.finish i (.failed (.raise f))

/-- The loader `i` has everything: publish its snapshot unless a clear overtook it. -/
def publish (r : Run) (i : Nat) : Run :=
  match (r.task i).role with
  | .loader name _ gen =>
    let st := r.store i
    let snap := Snapshot.assemble st.databases st.tables st.columns
    if r.world.cache.generation name ≠ gen then
      (r.note .debug "Discarding superseded schema load").finish i .ok
    else ((r.setCache (·.publish name snap)).note .info "Schema loaded").finish i .ok
  | _ => r.finish i .ok

/-- The owner `i` of group `g` checks its group: waits again while members remain, else
goes on according to how the members ended.  `thrown` tells that it was cancelled. -/
def groupExit (r : Run) (i g : Nat) (thrown : Bool) : Run :=
  let r := if thrown && !(r.group g).aborting then
      (r.setGroup g fun x => { x with outsideCancel := true }).abort g
    else r
  let r := r.setGroup g fun x => { x with fut := none }
  let grp := r.group g
  if !grp.live.isEmpty then
    let (r, f) := r.newFut i
    let r := r.setGroup g fun x => { x with fut := some f }
    r.setTask i fun t => { t with phase := .grouped g, waitsOn := some f }
  else if grp.outsideCancel && grp.errors.isEmpty then r.finish i .cancelled
  else if !grp.errors.isEmpty then
    match (r.task i).role with
    | .loader .. =>
      match (Failure.group grp.errors).first with
      | some e => r.loadFailed i e
      | none => r.finish i (.failed (.group grp.errors))
    | _ => r.finish i (.failed (.group grp.errors))
  else
    match (r.task i).role with
    | .loader .. => r.publish i
    | _ => r.finish i .ok

/-- The source a loader reads. -/
def sourceOf (r : Run) (loader : Nat) : String :=
  match (r.task loader).role with
  | .loader _ src _ => src
  | _ => ""

/-- Ask a question for names for task `i`; a reply that yields resumes the task one turn
later. -/
def fetchNames (r : Run) (i : Nat) (src : String) (database : Option Value)
    (go : Run → Except FetchError (List Value) → Run) : Run :=
  let (r, reply) := r.ask src (·.askNames database) []
  if reply.yields then
    (r.setTask i fun t => { t with phase := .gotNames reply.outcome }).enqueue (.step i false)
  else go r reply.outcome

/-- Ask for the columns of a table for task `i`; a reply that yields resumes the task one
turn later. -/
def fetchColumns (r : Run) (i : Nat) (src : String) (database table : Value)
    (go : Run → Except FetchError (List ColumnEntry) → Run) : Run :=
  let (r, reply) := r.ask src (·.askColumns database table) []
  if reply.yields then
    (r.setTask i fun t => { t with phase := .gotColumns reply.outcome }).enqueue (.step i false)
  else go r reply.outcome

/-- The loader `i` has the answer to its database question. -/
def loaderDatabases (r : Run) (i : Nat) (o : Except FetchError (List Value)) : Run :=
  match o with
  | .error e => r.loadFailed i (.stage (LoadError.ofFetch .databases e))
  | .ok dbs =>
    let r := r.setStore i fun _ => { databases := dbs }
    let (r, g) := r.startGroup i (dbs.map (Role.database i))
    r.groupExit i g false

/-- The database task `i` of loader `l` has the tables of `d`, which it files under `d`. -/
def databaseTables (r : Run) (i l : Nat) (d : Value) (o : Except FetchError (List Value)) :
    Run :=
  match o with
  | .error e => r.finish i (.failed (.raise (.stage (LoadError.ofFetch (.tables d) e))))
  | .ok ts =>
    match d.checkKey with
    | .error m => r.finish i (.failed (.raise (.misuse m)))
    | .ok () =>
      let r := r.setStore l fun s => { s with tables := KeyMap.put s.tables d ts }
      if ts.isEmpty then r.finish i .ok
      else
        let (r, g) := r.startGroup i (ts.map (Role.columns l d))
        r.groupExit i g false

/-- The column task `i` of loader `l` has the columns of `d.t`, which it files under the
pair. -/
def columnsFetched (r : Run) (i l : Nat) (d t : Value)
    (o : Except FetchError (List ColumnEntry)) : Run :=
  match o with
  | .error e => r.finish i (.failed (.raise (.stage (LoadError.ofFetch (.columns d t) e))))
  | .ok cs =>
    match d.checkKey *> t.checkKey with
    | .error m => r.finish i (.failed (.raise (.misuse m)))
    | .ok () =>
      (r.setStore l fun s => { s with columns := KeyMap.put s.columns (d, t) cs }).finish i .ok

/-- The caller `i` waits for the load `l`, or takes its outcome if it has ended. -/
def shield (r : Run) (i l : Nat) : Run :=
  match (r.task l).ending with
  | some e => r.finish i e
  | none =>
    let (r, f) := r.newFut i
    let r := r.setTask l fun t => { t with callbacks := t.callbacks ++ [.relay f] }
    r.setTask i fun t => { t with phase := .shielded f, waitsOn := some f }

/-- The caller `i` asks for a load of `name` from `src`, after a clear when refreshing:
it joins the load in flight, or starts one under the current generation. -/
def callerStart (r : Run) (i : Nat) (name src : String) (refresh : Bool) : Run :=
  let r := if refresh then r.setCache (·.clear name) else r
  match r.world.cache.inflight.lookup name with
  | some l => (r.note .debug "Joining in-flight schema load").shield i l
  | none =>
    let gen := r.world.cache.generation name
    let (r, l) := r.spawn (.loader name src gen) [.forget name]
    let r := r.setCache fun c => { c with inflight := setEntry c.inflight name l }
    r.shield i l

/-- The client `i` waits for its callers in order. -/
def clientAwait (r : Run) (i : Nat) : List Nat → Run
  | [] => r.finish i .ok
  | c :: rest =>
    if (r.task c).ending.isSome then clientAwait r i rest
    else
      let r := r.setTask c fun t => { t with callbacks := t.callbacks ++ [.wake i] }
      r.setTask i fun t => { t with phase := .awaiting (c :: rest) }

/-- The client `i` issues a caller with `role` and yields one turn before the `rest` of its
plan. -/
def issueCaller (r : Run) (i : Nat) (role : Role) (rest : List Plan) : Run :=
  let (r, c) := r.spawn role []
  let r := { r with issued := r.issued ++ [some c] }
  (r.setTask i fun t => { t with phase := .issuing rest }).enqueue (.step i false)

/-- Cancel the caller issued for the entry `entry` of the client's plan, if it issued one. -/
def cancelIssued (r : Run) (entry : Nat) : Run :=
  match r.issued[entry]? with
  | some (some c) => r.cancelTask c
  | _ => r

/-- The client `i` issues the rest of its plan: a clear or a cancel at once, a load or
refresh as a new caller, after which it yields one turn. -/
def clientIssue (r : Run) (i : Nat) : List Plan → Run
  | [] => r.clientAwait i (r.issued.filterMap id)
  | .clear name :: rest =>
    clientIssue ({ r.setCache (·.clear name) with issued := r.issued ++ [none] }) i rest
  | .cancel entry :: rest =>
    clientIssue ({ r.cancelIssued entry with issued := r.issued ++ [none] }) i rest
  | .load name src :: rest => r.issueCaller i (.caller name src false) rest
  | .refresh name src :: rest => r.issueCaller i (.caller name src true) rest

/-- One step of task `i`; `thrown` tells that it resumes cancelled. -/
def stepTask (r : Run) (i : Nat) (thrown : Bool) : Run :=
  let t := r.task i
  if t.ending.isSome then r
  else
    let thrown := thrown || t.mustCancel
    let r := r.setTask i fun t => { t with mustCancel := false, waitsOn := none }
    match t.role, t.phase with
    | .client, .issuing rest => r.clientIssue i rest
    | .client, .awaiting rest => r.clientAwait i rest
    | .caller name src refresh, .start =>
      if thrown then r.finish i .cancelled else r.callerStart i name src refresh
    | .caller .., .shielded f =>
      match (r.fut f).state with
      | .resolved e => r.finish i e
      | .cancelled => r.finish i .cancelled
      | .pending => r
    | .loader _ src _, .start =>
      if thrown then r.finish i .cancelled
      else
        (r.note .info "Loading schema").fetchNames i src none (fun r o => r.loaderDatabases i o)
    | .loader .., .gotNames o => if thrown then r.finish i .cancelled else r.loaderDatabases i o
    | .database l d, .start =>
      if thrown then r.finish i .cancelled
      else r.fetchNames i (r.sourceOf l) (some d) (fun r o => r.databaseTables i l d o)
    | .database l d, .gotNames o =>
      if thrown then r.finish i .cancelled else r.databaseTables i l d o
    | .columns l d tb, .start =>
      if thrown then r.finish i .cancelled
      else r.fetchColumns i (r.sourceOf l) d tb (fun r o => r.columnsFetched i l d tb o)
    | .columns l d tb, .gotColumns o =>
      if thrown then r.finish i .cancelled else r.columnsFetched i l d tb o
    | _, .grouped g => r.groupExit i g thrown
    | _, _ => r

/-- Handle one event. -/
def handle (r : Run) : Event → Run
  | .step i thrown => r.stepTask i thrown
  | .childDone g c => r.childDone g c
  | .forget name l =>
    if r.world.cache.inflight.lookup name = some l then
      r.setCache fun c => { c with inflight := eraseKey c.inflight name }
    else r
  | .relay l f =>
    match (r.task l).ending with
    | some .cancelled => r.settle f .cancelled
    | some e => r.settle f (.resolved e)
    | none => r

/-- Handle events from the front of the queue until it is empty, at most `fuel` of them. -/
def drain : Nat → Run → Run
  | 0, r => r
  | fuel + 1, r =>
    match r.queue with
    | [] => r
    | e :: rest => drain fuel ({ r with queue := rest }.handle e)

end Run

/-- How a request to the cache ended. -/
inductive Outcome
  | done
  | failed (f : LoadFailure)
  | cancelled
  | unfinished

/-- The outcome of a task's ending. -/
def Ending.outcome : Option Ending → Outcome
  | some .ok => .done
  | some (.failed f) => match f.first with
    | some e => .failed e
    | none => .unfinished
  | some .cancelled => .cancelled
  | none => .unfinished

/-- As many items as any source of the world can answer to one question. -/
def World.width (w : World) : Nat := (w.sources.map (·.2.width)).sum

/-- The turns a queued event may still cost.  An event that may wake a task counts two,
since the task may go back to waiting on a new outcome. -/
def Event.turns : Event → Nat
  | .forget .. => 1
  | _ => 2

/-- The turns of the event a callback queues when its task ends. -/
def Callback.turns : Callback → Nat
  | .forget _ => 1
  | _ => 2

/-- The turns of a task group of `n` members that start with `member` turns each:
starting the members, the owner's wait, and one cancel of each member and of the owner. -/
def groupTurns (member n : Nat) : Nat := n * (member + 3) + 2

/-- The turns of a column task that starts: a source that yields puts it back once. -/
def columnsTurns : Nat := 2

/-- The turns of a database task that starts, for sources of at most `width` items. -/
def databaseTurns (width : Nat) : Nat := 2 + groupTurns (columnsTurns + 2) width

/-- The turns of a loader that starts, for sources of at most `width` items. -/
def loaderTurns (width : Nat) : Nat := 2 + groupTurns (databaseTurns width + 2) width

/-- The turns of a caller that starts: a loader with its forget callback, and a wait on a
load with a relay callback. -/
def callerTurns (width : Nat) : Nat := loaderTurns width + 6

/-- The turns of an entry of a client's plan: a caller, the client's own turn after
issuing it, and the wake the client asks of it; a cancel wakes at most the caller. -/
def Plan.turns (width : Nat) : Plan → Nat
  | .clear _ => 0
  | .cancel _ => 1
  | _ => callerTurns width + 6

/-- The turns a task may still take in its phase, apart from its callbacks. -/
def Task.phaseTurns (width : Nat) (t : Task) : Nat :=
  match t.role, t.phase with
  | .client, .issuing rest => (rest.map (Plan.turns width)).sum
  | .caller .., .start => callerTurns width
  | .loader .., .start => loaderTurns width
  | .loader .., .gotNames (.ok dbs) => groupTurns (databaseTurns width + 2) dbs.length
  | .database .., .start => databaseTurns width
  | .database .., .gotNames (.ok ts) => groupTurns (columnsTurns + 2) ts.length
  | .columns .., .start => columnsTurns
  | _, _ => 0

/-- The turns a task may still take: none once it has ended; else those of its phase and
of the events its callbacks queue, and for a caller the wake a client may ask of it. -/
def Task.turns (width : Nat) (t : Task) : Nat :=
  match t.ending with
  | some _ => 0
  | none =>
    t.phaseTurns width + (t.callbacks.map Callback.turns).sum +
      match t.role with
      | .caller .. => if t.callbacks.any (· matches .wake _) then 0 else 2
      | _ => 0

/-- The turns a pending outcome may still cost: waking its waiters, less the turn of the
event that settles it. -/
def Fut.turns (f : Fut) : Nat :=
  match f.state with
  | .pending => 2 * f.waiters.length - 1
  | _ => 0

/-- The turns a task group may still cost: cancelling its live members and its owner. -/
def Group.turns (g : Group) : Nat :=
  (if g.aborting then 0 else g.live.length) + (if g.aborting || g.ownerCancelled then 0 else 1)

/-- A bound on the turns a run still takes when no source answers more than `width`
items: every turn handles an event and lowers the bound. -/
def Run.turns (width : Nat) (r : Run) : Nat :=
  (r.queue.map Event.turns).sum + (r.tasks.toList.map (Task.turns width)).sum +
    (r.futs.toList.map Fut.turns).sum + (r.groups.toList.map Group.turns).sum

/-- Carry out a client's plan on the world: issue each entry in order, a load or refresh
as a caller followed by one turn, a clear or a cancel at once; then wait for the callers in
order.
Gives the world afterwards and, for each entry, the outcome of its caller (none for a
clear or a cancel).  The run is given the turns of its budget. -/
def World.perform (w : World) (plan : List Plan) : World × List (Option Outcome) :=
  let client : Task := { role := .client, phase := .issuing plan }
  let r : Run := { world := w, tasks := #[client], queue := [.step 0 false] }
  let r := Run.drain (r.turns w.width) r
  (r.world, r.issued.map fun o => o.map fun c => Ending.outcome (r.task c).ending)

/-- Load the schema of `name` from the source `src`, alone. -/
def World.load (w : World) (name src : String) : World × Outcome :=
  match w.perform [.load name src] with
  | (w, [some o]) => (w, o)
  | (w, _) => (w, .unfinished)

/-- Refresh the schema of `name` from the source `src`, alone. -/
def World.refresh (w : World) (name src : String) : World × Outcome :=
  match w.perform [.refresh name src] with
  | (w, [some o]) => (w, o)
  | (w, _) => (w, .unfinished)

end SqlAssist.Schema
