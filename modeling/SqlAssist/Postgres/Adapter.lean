import SqlAssist.Schema.Fetch
import SqlAssist.Value.Display

/-!
# The PostgreSQL schema source

PostgreSQL cannot query across databases on one connection, so the schemas of the
connected database play the role of databases: `shop.users` is table `users` of schema
`shop`.  The adapter opens a connection pool on its first fetch and keeps it until it is
closed; a failed connection leaves no pool behind, so the next fetch tries again.

Every request the adapter makes of the pool library is recorded: opening a pool with its
connection settings, each query with its arguments, and closing.  The server behind the
pool is modelled by `Server`: the schemas, tables and columns it reports, the queries
that fail, and whether connecting fails.  It files tables under schema names and columns
under `schema.table`, so a schema given as another value than a text has no tables.

Errors: a failed connection is `Failed to connect to data source '<name>': <err>`, a failed
query `Query failed for data source '<name>': <err>`, both of kind `AdapterError`.
-/

namespace SqlAssist.Postgres

open Schema

/-- Connection settings of the adapter, as given: any value may stand in each place, and
a setting counts as given when it is not false (the port: when it is not absent). -/
structure Settings where
  name : Value := .str "postgres"
  dsn : Value := .null
  host : Value := .null
  port : Value := .null
  database : Value := .null
  user : Value := .null
  password : Value := .null
  /-- Seconds to wait for a connection: an integer or a float, as given. -/
  connectTimeout : Value := .float 5.0
  maxConnections : Value := .int 4

/-- The keywords the adapter takes. -/
def keywords : List String :=
  ["name", "dsn", "host", "port", "database", "user", "password", "connect_timeout",
    "max_connections"]

/-- Settings from keyword arguments, each in its place; the first keyword the adapter does
not take is refused with the message of the error it raises. -/
def Settings.ofKeywords (kw : List (String × Value)) : Except String Settings :=
  match kw.find? fun (k, _) => !keywords.contains k with
  | some (k, _) =>
    .error ("PostgresAdapter.__init__() got an unexpected keyword argument '" ++ k ++ "'")
  | none =>
    let get := fun (k : String) (d : Value) => (kw.lookup k).getD d
    .ok { name := get "name" (.str "postgres"), dsn := get "dsn" .null,
          host := get "host" .null, port := get "port" .null,
          database := get "database" .null, user := get "user" .null,
          password := get "password" .null, connectTimeout := get "connect_timeout" (.float 5.0),
          maxConnections := get "max_connections" (.int 4) }

/-- A setting when it counts as given. -/
def given (v : Value) : Option Value := if v.isFalsy then none else some v

/-- The keyword settings of a connection, sorted by keyword: a DSN when one is given,
else the host (`localhost` by default), port, user and database; then the password, the
timeout and the pool size. -/
def Settings.connectArgs (s : Settings) : List (String × Value) :=
  let target := match given s.dsn with
    | some d => [("dsn", d)]
    | none =>
      [("host", (given s.host).getD (.str "localhost"))] ++
        (if s.port matches .null then [] else [("port", s.port)]) ++
        ((given s.user).map fun u => [("user", u)]).getD [] ++
        ((given s.database).map fun d => [("database", d)]).getD []
  let pw := ((given s.password).map fun p => [("password", p)]).getD []
  let all := target ++ pw ++ [("timeout", s.connectTimeout), ("min_size", .int 1),
    ("max_size", s.maxConnections)]
  all.mergeSort fun a b => decide (a.1 ≤ b.1)

/-- The three catalog queries. -/
inductive Query
  | schemas
  | tables
  | columns
  deriving DecidableEq, Repr

/-- The SQL text of a catalog query, its white space collapsed. -/
def Query.text : Query → String
  | .schemas => "SELECT schema_name FROM information_schema.schemata WHERE schema_name NOT IN ('pg_catalog', 'information_schema') AND schema_name NOT LIKE 'pg_toast%' AND schema_name NOT LIKE 'pg_temp_%' ORDER BY schema_name"
  | .tables => "SELECT table_name FROM information_schema.tables WHERE table_schema = $1 ORDER BY table_name"
  | .columns => "SELECT column_name, data_type FROM information_schema.columns WHERE table_schema = $1 AND table_name = $2 ORDER BY ordinal_position"

/-- A request the adapter makes of the pool library. -/
inductive Request
  | openPool (args : List (String × Value))
  | query (q : Query) (args : List Value)
  | close
  deriving Inhabited

/-- The server behind the pool: what it reports and where it fails.  Its rows may hold any
values; the adapter reads each as text. -/
structure Server where
  schemas : List Value := []
  tables : List (String × List Value) := []
  /-- Columns by `schema.table`, as name and type. -/
  columns : List (String × List (Value × Value)) := []
  /-- Failing queries, by fetch key, with their errors, shown in display form. -/
  failures : List (String × Value) := []
  /-- The error of connecting, shown in display form, if connecting fails. -/
  connectError : Option Value := none

/-- The adapter: its settings, whether a pool is open, and the requests made so far. -/
structure Adapter where
  settings : Settings
  server : Server
  poolOpen : Bool := false
  requests : List Request := []

/-- Open a pool unless one is open: `none` when open, else the connection error. -/
def Adapter.ensurePool (a : Adapter) : Adapter × Option FetchError :=
  if a.poolOpen then (a, none)
  else
    let a := { a with requests := a.requests ++ [Request.openPool a.settings.connectArgs] }
    match a.server.connectError with
    | some err =>
      (a, some ⟨"AdapterError",
        "Failed to connect to data source '" ++ a.settings.name.display ++ "': " ++
          err.display⟩)
    | none => ({ a with poolOpen := true }, none)

/-- Open the pool if needed, then run the query for a fetch key, with the key's names as
its arguments. -/
def Adapter.query (a : Adapter) (key : FetchKey) : Adapter × Except FetchError Unit :=
  let (a, failed) := a.ensurePool
  match failed with
  | some e => (a, .error e)
  | none =>
    let (q, args) := match key with
      | .databases => (Query.schemas, [])
      | .tables d => (Query.tables, [d])
      | .columns d t => (Query.columns, [d, t])
    let a := { a with requests := a.requests ++ [Request.query q args] }
    match a.server.failures.lookup key.text with
    | some err =>
      (a, .error ⟨"AdapterError", "Query failed for data source '" ++ a.settings.name.display ++
        "': " ++ err.display⟩)
    | none => (a, .ok ())

/-- The rows the server holds for the tables of a schema, looked up by the schema itself:
only a text names a schema, and a list or an object cannot be looked up at all. -/
def Server.tablesOf (s : Server) (schema : Value) : Except Misuse (List Value) :=
  match schema with
  | .str n => .ok ((s.tables.lookup n).getD [])
  | v => do
    v.checkKey
    .ok []

/-- Answer a question for names: the schemas when `schema` is absent, else the tables of
`schema`, each read as text.  A schema that cannot be looked up fails the query. -/
def Adapter.fetchNames (a : Adapter) (schema : Option Value) :
    Adapter × Except FetchError (List Value) :=
  let (a, r) := a.query (.ofNames schema)
  (a, r.bind fun _ => match schema with
    | none => .ok (a.server.schemas.map fun v => .str v.display)
    | some d =>
      match a.server.tablesOf d with
      | .ok rows => .ok (rows.map fun v => .str v.display)
      | .error m => .error ⟨"AdapterError", "Query failed for data source '" ++
          a.settings.name.display ++ "': " ++ m.message⟩)

/-- Answer a question for the columns of a table of a schema, each name and type read as
text. -/
def Adapter.fetchColumns (a : Adapter) (schema table : Value) :
    Adapter × Except FetchError (List ColumnEntry) :=
  let (a, r) := a.query (.columns schema table)
  (a, r.map fun _ =>
    ((a.server.columns.lookup (schema.display ++ "." ++ table.display)).getD []).map fun (n, ty) =>
      .column ⟨.str n.display, .str ty.display⟩)

/-- Close the pool, if one is open. -/
def Adapter.close (a : Adapter) : Adapter :=
  if a.poolOpen then { a with poolOpen := false, requests := a.requests ++ [Request.close] } else a

end SqlAssist.Postgres
