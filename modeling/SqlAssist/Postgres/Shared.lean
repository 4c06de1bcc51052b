import SqlAssist.Postgres.Adapter
import Mathlib.Logic.Function.Basic

/-!
# The adapter under concurrent calls

Fetches and closing on one adapter run as coroutines: each runs until it awaits, and
others run while it waits.  A fetch opens the pool under a lock: it takes the lock, reads
the adapter's pool, asks the pool library for a new pool when there is none and stores it,
releases the lock, and queries the pool.  Closing takes the pool out of the adapter and
closes it, without taking the lock.

The lock is first come, first served.  A fetch that finds the lock held, or fetches
already queued for it, queues; once the lock is free the first queued fetch may take it,
and a fetch arriving meanwhile queues behind.  A cancelled call stops where it waits: a
queued fetch leaves the queue, and a fetch awaiting its new pool gives the lock back.

Whether the pool library yields to other calls while it opens a pool, runs a query or
closes a pool is the `Library`'s to say; one that does not answers within the same step.
The server behind the pool is the one the adapter talks to one fetch at a time (`Server`):
it decides whether connecting and each query fail, and the errors read as they do there
(`Adapter.query_eq_call`).

A run is a list of `Action`s: make a call, let a call whose wait is over resume, or cancel
a call.  A call that cannot resume (a fetch queued behind others or behind a held lock, a
call that has ended) is left as it is.  The state records every request made of the pool
library, with the call that made it and the pool, numbered as pools are opened, and for
each pool opened whether it has been closed.
-/

namespace SqlAssist.Postgres

open Schema

/-- Whether the pool library yields to other calls while it opens a pool, runs a query and
closes a pool. -/
structure Library where
  createYields : Bool
  fetchYields : Bool
  closeYields : Bool
  deriving DecidableEq

/-- A call on the adapter: a fetch for a key, or closing the adapter. -/
inductive Call
  | fetch (key : FetchKey)
  | aclose

/-- How a call ended: it returned, raised an error, or was cancelled. -/
inductive CallEnd
  | returned
  | raised (e : FetchError)
  | cancelled
  deriving DecidableEq

/-- How a fetch made one at a time ends, as a call's end. -/
def CallEnd.ofExcept : Except FetchError Unit → CallEnd
  | .ok () => .returned
  | .error e => .raised e

/-- Where a call stands: a fetch queued for the lock, awaiting a new pool while it holds the
lock, or awaiting its query on a pool; a closing awaiting the pool's closing; or ended. -/
inductive Stage
  | queued (key : FetchKey)
  | opening (key : FetchKey)
  | querying (key : FetchKey) (pool : Nat)
  | closing (pool : Nat)
  | ended (e : CallEnd)

/-- A request a call makes of the pool library. -/
inductive PoolRequest
  | create (call : Nat)
  | query (call pool : Nat)
  | close (call pool : Nat)
  deriving DecidableEq

/-- The error of a fetch whose pool could not be opened. -/
def Settings.connectFailure (s : Settings) (err : Value) : FetchError :=
  ⟨"AdapterError", "Failed to connect to data source '" ++ s.name.display ++ "': " ++ err.display⟩

/-- The error of a fetch whose query failed. -/
def Settings.queryFailure (s : Settings) (err : Value) : FetchError :=
  ⟨"AdapterError", "Query failed for data source '" ++ s.name.display ++ "': " ++ err.display⟩

/-- The adapter as its concurrent calls share it. -/
structure Shared where
  settings : Settings
  server : Server
  /-- The adapter's pool, by number. -/
  pool : Option Nat := none
  /-- Whether the pool lock is held. -/
  locked : Bool := false
  /-- The fetches queued for the lock, first come first. -/
  queue : List Nat := []
  /-- For each pool opened, by number, whether it has been closed. -/
  closed : List Bool := []
  /-- How many calls have been made; calls are numbered from `0` as they are made. -/
  made : Nat := 0
  /-- Where each call stands; a number no call has yet counts as ended. -/
  stage : Nat → Stage := fun _ => .ended .returned
  requests : List PoolRequest := []

/-- The adapter before any call: no pool, the lock free. -/
def Shared.start (settings : Settings) (server : Server) : Shared :=
  { settings, server }

namespace Shared

/-- Call `i` now stands at `s`. -/
def setStage (st : Shared) (i : Nat) (s : Stage) : Shared :=
  { st with stage := Function.update st.stage i s }

/-- Record a request of the pool library. -/
def ask (st : Shared) (r : PoolRequest) : Shared :=
  { st with requests := st.requests ++ [r] }

/-- Whether the pool `p` has been opened and not closed. -/
def isOpen (st : Shared) (p : Nat) : Prop := st.closed[p]? = some false

instance (st : Shared) (p : Nat) : Decidable (st.isOpen p) :=
  inferInstanceAs (Decidable (st.closed[p]? = some false))

/-- Close the pool `p`. -/
def closePool (st : Shared) (p : Nat) : Shared :=
  { st with closed := st.closed.set p true }

/-- How the query of a fetch for `key` ends, as the server answers it. -/
def queryEnd (st : Shared) (key : FetchKey) : CallEnd :=
  match st.server.failures.lookup key.text with
  | some err => .raised (st.settings.queryFailure err)
  | none => .returned

/-- Fetch `i` queries the pool `p` for `key`. -/
def startQuery (lib : Library) (st : Shared) (i : Nat) (key : FetchKey) (p : Nat) : Shared :=
  (st.ask (.query i p)).setStage i
    (if lib.fetchYields then .querying key p else .ended (st.queryEnd key))

/-- The pool library answers fetch `i`'s request for a pool: the fetch stores the new pool,
releases the lock and queries the pool; when connecting fails it releases the lock and
raises. -/
def opened (lib : Library) (st : Shared) (i : Nat) (key : FetchKey) : Shared :=
  match st.server.connectError with
  | some err =>
    { st with locked := false }.setStage i (.ended (.raised (st.settings.connectFailure err)))
  | none =>
    let p := st.closed.length
    startQuery lib { st with pool := some p, closed := st.closed ++ [false], locked := false }
      i key p

/-- Fetch `i`, holding the lock, reads the adapter's pool: it releases the lock and queries
the pool there is, or asks the library for a new one. -/
def withLock (lib : Library) (st : Shared) (i : Nat) (key : FetchKey) : Shared :=
  match st.pool with
  | some p => startQuery lib { st with locked := false } i key p
  | none =>
    let st := st.ask (.create i)
    if lib.createYields then st.setStage i (.opening key) else st.opened lib i key

/-- Closing call `i` closes the pool `p` it took out of the adapter. -/
def closing (lib : Library) (st : Shared) (i p : Nat) : Shared :=
  let st := st.ask (.close i p)
  if lib.closeYields then st.setStage i (.closing p)
  else (st.closePool p).setStage i (.ended .returned)

/-- Call `c` is made, numbered next, and runs to its first await. -/
def call (lib : Library) (st : Shared) (c : Call) : Shared :=
  let i := st.made
  let st := { st with made := i + 1 }
  match c with
  | .fetch key =>
    if st.locked = false ∧ st.queue = [] then withLock lib { st with locked := true } i key
    else { st with queue := st.queue ++ [i] }.setStage i (.queued key)
  | .aclose =>
    match st.pool with
    | none => st.setStage i (.ended .returned)
    | some p => closing lib { st with pool := none } i p

/-- What call `i` awaits is done, and it runs to its next await: a queued fetch takes the
lock once the lock is free and the fetch is first in the queue; a fetch awaiting its pool
gets it; a query ends as the server answers; a pool finishes closing. -/
def resume (lib : Library) (st : Shared) (i : Nat) : Shared :=
  match st.stage i with
  | .queued key =>
    if st.locked = false ∧ st.queue.head? = some i then
      withLock lib { st with locked := true, queue := st.queue.tail } i key
    else st
  | .opening key => st.opened lib i key
  | .querying key _ => st.setStage i (.ended (st.queryEnd key))
  | .closing p => (st.closePool p).setStage i (.ended .returned)
  | .ended _ => st

/-- Call `i` is cancelled where it waits: a queued fetch leaves the queue, a fetch awaiting
its pool gives the lock back, and the pool it awaited is never stored. -/
def cancel (st : Shared) (i : Nat) : Shared :=
  match st.stage i with
  | .queued _ => { st with queue := st.queue.erase i }.setStage i (.ended .cancelled)
  | .opening _ => { st with locked := false }.setStage i (.ended .cancelled)
  | .querying _ _ | .closing _ => st.setStage i (.ended .cancelled)
  | .ended _ => st

end Shared

/-- One thing that happens to the adapter's calls. -/
inductive Action
  | call (c : Call)
  | resume (i : Nat)
  | cancel (i : Nat)

namespace Shared

/-- The adapter after an action. -/
def act (lib : Library) (st : Shared) : Action → Shared
  | .call c => st.call lib c
  | .resume i => st.resume lib i
  | .cancel i => st.cancel i

/-- The adapter after a run of actions. -/
def run (lib : Library) (st : Shared) (as : List Action) : Shared :=
  as.foldl (act lib) st

/-! ## What each update changes -/

section Fields

variable (st : Shared) (i p : Nat) (s : Stage) (r : PoolRequest)

@[simp] theorem setStage_stage : (st.setStage i s).stage = Function.update st.stage i s := rfl
@[simp] theorem setStage_pool : (st.setStage i s).pool = st.pool := rfl
@[simp] theorem setStage_locked : (st.setStage i s).locked = st.locked := rfl
@[simp] theorem setStage_queue : (st.setStage i s).queue = st.queue := rfl
@[simp] theorem setStage_closed : (st.setStage i s).closed = st.closed := rfl
@[simp] theorem setStage_made : (st.setStage i s).made = st.made := rfl
@[simp] theorem setStage_requests : (st.setStage i s).requests = st.requests := rfl
@[simp] theorem setStage_settings : (st.setStage i s).settings = st.settings := rfl
@[simp] theorem setStage_server : (st.setStage i s).server = st.server := rfl

@[simp] theorem ask_stage : (st.ask r).stage = st.stage := rfl
@[simp] theorem ask_pool : (st.ask r).pool = st.pool := rfl
@[simp] theorem ask_locked : (st.ask r).locked = st.locked := rfl
@[simp] theorem ask_queue : (st.ask r).queue = st.queue := rfl
@[simp] theorem ask_closed : (st.ask r).closed = st.closed := rfl
@[simp] theorem ask_made : (st.ask r).made = st.made := rfl
@[simp] theorem ask_requests : (st.ask r).requests = st.requests ++ [r] := rfl
@[simp] theorem ask_settings : (st.ask r).settings = st.settings := rfl
@[simp] theorem ask_server : (st.ask r).server = st.server := rfl

@[simp] theorem closePool_stage : (st.closePool p).stage = st.stage := rfl
@[simp] theorem closePool_pool : (st.closePool p).pool = st.pool := rfl
@[simp] theorem closePool_locked : (st.closePool p).locked = st.locked := rfl
@[simp] theorem closePool_queue : (st.closePool p).queue = st.queue := rfl
@[simp] theorem closePool_closed : (st.closePool p).closed = st.closed.set p true := rfl
@[simp] theorem closePool_made : (st.closePool p).made = st.made := rfl
@[simp] theorem closePool_requests : (st.closePool p).requests = st.requests := rfl
@[simp] theorem closePool_settings : (st.closePool p).settings = st.settings := rfl
@[simp] theorem closePool_server : (st.closePool p).server = st.server := rfl

@[simp] theorem queryEnd_setStage (key : FetchKey) :
    (st.setStage i s).queryEnd key = st.queryEnd key := rfl

end Fields

end Shared

end SqlAssist.Postgres
