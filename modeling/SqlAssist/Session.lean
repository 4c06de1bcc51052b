import SqlAssist.Server
import SqlAssist.Schema.Run
import SqlAssist.Schema.Configured

/-!
# Sessions

A session owns the shared schema cache and binds editor buffers to data sources.

* A data source is looked up by name (the first of that name); the default one is the
  configured default when a nonempty one is named, else the first source.
* Attaching a buffer resolves its data source (the named one, else the default; with no
  source at all that is an error), detaches the buffer if it was attached, and loads the
  source's schema unless it is cached.  A failed load leaves the buffer detached.
* Refreshing reloads a source's schema.
* Closing detaches every buffer and closes every PostgreSQL pool.

Loads and refreshes are announced to the session's listeners: `Loading schema for
<name>...` and `Schema loaded for <name>`, or `Failed to load schema: <error>`; likewise
`Refreshing schema for <name>...`, `Schema refreshed for <name>` and `Failed to refresh
schema: <error>`.  A collecting listener keeps the notices; a reporting listener logs
each as an information record.

A buffer's requests are served by a server over the session's current cache, with the
configured completion knobs; what serving logs joins the session's log.

Buffers are objects that an editor names by id.  Each attaching hands over a new buffer
object, which the id names from then on, even when the attaching fails; a server reads
the object its buffer was attached with.  So after a failed re-attach, the server still
reads the earlier object, and setting the text of the id no longer reaches it.
-/

namespace SqlAssist

/-- The severity of a notice. -/
inductive NoticeLevel
  | info
  | error
  deriving DecidableEq, Repr

/-- The name of a notice level. -/
def NoticeLevel.name : NoticeLevel → String
  | .info => "info"
  | .error => "error"

/-- A message to the user about a data source's schema. -/
structure Notice where
  source : String
  level : NoticeLevel
  message : String
  deriving DecidableEq, Repr

/-- What a listener does with a notice: keep it, or log it. -/
inductive Listener
  | collect
  | report
  deriving DecidableEq, Repr

/-- A buffer bound to a data source; its server reads the buffer object `handle`. -/
structure Attachment where
  buffer : String
  source : String
  handle : Nat
  deriving DecidableEq, Repr

/-- Why a session operation fails: a data source that cannot be had, or a failed load. -/
inductive SessionError
  | noSource (message : String)
  | load (f : Schema.LoadFailure)

/-- The message of a session failure. -/
def SessionError.message : SessionError → String
  | .noSource m => m
  | .load e => e.message

/-- A session. -/
structure Session where
  config : Config.AppConfig
  world : Schema.World
  /-- The data sources in order: each name with the key of its schema source. -/
  sources : List (String × String)
  attachments : List Attachment := []
  /-- The buffer objects, by handle. -/
  objects : List (Nat × Buffer) := []
  /-- The buffer object each buffer id names. -/
  names : List (String × Nat) := []
  listeners : List Listener := []
  notices : List Notice := []

namespace Session

/-- The component name of the session's records. -/
def component : String := "abcql.session"

/-- The component name under which reported notices are logged. -/
def reportComponent : String := "abcql.cli"

/-- A session over named schema sources; each source is keyed by its position. -/
def create (config : Config.AppConfig) (sources : List (String × Schema.Source)) : Session :=
  let keyed := ((List.range sources.length).zip sources).map fun (i, (n, src)) =>
    ((n, toString i), (toString i, src))
  { config, world := { sources := keyed.map (·.2) }, sources := keyed.map (·.1) }

/-- The session of a configuration, its sources built from the configured entries. -/
def ofConfig (config : Config.AppConfig) : Session :=
  create config (config.dataSources.map fun c => (c.name, Schema.Source.ofConfig c))

/-- Add a log record. -/
def log (s : Session) (r : Log.Record) : Session :=
  { s with world := { s.world with log := s.world.log ++ [r] } }

/-- Tell every listener of a notice. -/
def notify (s : Session) (source : String) (level : NoticeLevel) (message : String) :
    Session :=
  s.listeners.foldl (fun s l => match l with
    | .collect => { s with notices := s.notices ++ [⟨source, level, message⟩] }
    | .report => s.log ⟨.info, reportComponent, message⟩) s

/-- Add a listener. -/
def subscribe (s : Session) (l : Listener) : Session := { s with listeners := s.listeners ++ [l] }

/-- Remove a listener. -/
def unsubscribe (s : Session) (l : Listener) : Session :=
  { s with listeners := s.listeners.erase l }

/-- The names of the data sources. -/
def sourceNames (s : Session) : List String := s.sources.map (·.1)

/-- The first data source of a name, with its key. -/
def dataSource (s : Session) (name : String) : Except SessionError (String × String) :=
  match s.sources.find? (·.1 = name) with
  | some found => .ok found
  | none => .error (.noSource (Config.notFound name))

/-- The default data source: the configured default when a nonempty one is named, else
the first. -/
def defaultSource (s : Session) : Except SessionError (Option (String × String)) :=
  match s.config.defaultSource with
  | some d => if d.isEmpty then .ok s.sources.head? else (s.dataSource d).map some
  | none => .ok s.sources.head?

/-- The data source to attach to: the named one, else the default. -/
def resolve (s : Session) : Option String → Except SessionError (String × String)
  | some name => s.dataSource name
  | none =>
    match s.defaultSource with
    | .ok (some found) => .ok found
    | .ok none => .error (.noSource "No data sources configured.")
    | .error e => .error e

/-- Whether a buffer is attached. -/
def isAttached (s : Session) (buffer : String) : Bool := s.attachments.any (·.buffer = buffer)

/-- The data source a buffer is attached to. -/
def sourceOf? (s : Session) (buffer : String) : Option String :=
  (s.attachments.find? (·.buffer = buffer)).map (·.source)

/-- The buffer object an id names, if it names one. -/
def bufferOf? (s : Session) (buffer : String) : Option Buffer :=
  (s.names.lookup buffer).bind fun h => s.objects.lookup h

/-- Replace the text of the buffer object an id names. -/
def setText (s : Session) (buffer text : String) : Session :=
  match s.names.lookup buffer with
  | some h => { s with objects := Schema.setEntry s.objects h (Buffer.ofText text) }
  | none => s

/-- Hand over a new buffer object under an id; its handle. -/
def openBuffer (s : Session) (buffer : String) (b : Buffer) : Session × Nat :=
  let h := s.objects.length
  ({ s with objects := s.objects ++ [(h, b)], names := Schema.setEntry s.names buffer h }, h)

/-- Unbind a buffer; an unknown one is ignored. -/
def detach (s : Session) (buffer : String) : Session :=
  if s.isAttached buffer then
    let s := { s with attachments := s.attachments.filter (·.buffer ≠ buffer) }
    s.log ⟨.debug, component, "Detached buffer"⟩
  else s

/-- Load a data source's schema, announcing it. -/
def loadSource (s : Session) (name key : String) : Session × Except SessionError Unit :=
  let s := s.notify name .info ("Loading schema for " ++ name ++ "...")
  let (w, o) := s.world.load name key
  let s := { s with world := w }
  match o with
  | .failed (.stage e) =>
    (s.notify name .error ("Failed to load schema: " ++ e.message), .error (.load (.stage e)))
  | .failed f => (s, .error (.load f))
  | _ => (s.notify name .info ("Schema loaded for " ++ name), .ok ())

/-- Bind a buffer, handed over as the object `b`, to a data source, loading its schema on
first use; the name of the source bound to. -/
def attach (s : Session) (buffer : String) (b : Buffer) (name : Option String) :
    Session × Except SessionError String :=
  let (s, handle) := s.openBuffer buffer b
  match s.resolve name with
  | .error e => (s, .error e)
  | .ok (n, key) =>
    let s := s.detach buffer
    let (s, loaded) := if s.world.cache.has n then (s, .ok ()) else s.loadSource n key
    match loaded with
    | .error e => (s, .error e)
    | .ok () =>
      let s := { s with
        attachments := s.attachments ++ [({ buffer, source := n, handle } : Attachment)] }
      (s.log ⟨.debug, component, "Attached buffer"⟩, .ok n)

/-- Reload a data source's schema, announcing it. -/
def refresh (s : Session) (name : String) : Session × Except SessionError Unit :=
  match s.dataSource name with
  | .error e => (s, .error e)
  | .ok (_, key) =>
    let s := s.notify name .info ("Refreshing schema for " ++ name ++ "...")
    let (w, o) := s.world.refresh name key
    let s := { s with world := w }
    match o with
    | .failed (.stage e) =>
      (s.notify name .error ("Failed to refresh schema: " ++ e.message), .error (.load (.stage e)))
    | .failed f => (s, .error (.load f))
    | _ => (s.notify name .info ("Schema refreshed for " ++ name), .ok ())

/-- The completion service of a data source over the current cache. -/
def service (s : Session) (name : String) : Service :=
  { cache := s.world.cache, source := name,
    statementScope := s.config.completion.statementScope,
    maxItems := .int s.config.completion.maxItems }

/-- The server of an attached buffer. -/
def server? (s : Session) (buffer : String) : Option Server :=
  (s.attachments.find? (·.buffer = buffer)).map fun a =>
    (⟨s.service a.source, (s.objects.lookup a.handle).getD (Buffer.ofText "")⟩ : Server)

/-- Serve a request of an attached buffer with `f`, keeping what it logs; `none` when the
buffer is not attached. -/
def serve {α : Type} (s : Session) (buffer : String) (f : Server → α × List Log.Record) :
    Session × Option α :=
  match s.server? buffer with
  | none => (s, none)
  | some srv =>
    let (a, records) := f srv
    ({ s with world := { s.world with log := s.world.log ++ records } }, some a)

/-- Close a schema source: a PostgreSQL adapter closes its pool. -/
def closeSource : Schema.Source → Schema.Source
  | .postgres a => .postgres a.close
  | src => src

/-- Detach every buffer and close every source. -/
def close (s : Session) : Session :=
  let s := s.attachments.foldl (fun s a => s.detach a.buffer) s
  { s with world := { s.world with sources := s.world.sources.map fun (k, src) =>
    (k, closeSource src) } }

end Session

end SqlAssist
