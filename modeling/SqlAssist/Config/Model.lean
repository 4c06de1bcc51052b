import SqlAssist.Value

/-!
# The application configuration

The configuration lists the data sources a session can attach to, names the default one,
and sets the completion knobs.  A data source is either a PostgreSQL server, given by a
connection string or by its parts, or a static catalog (the demo catalog when none is
given).

Without a configuration file the application has one static source named `demo`, no
named default, at most 200 items a completion, and statement scoping on.  The active
source is the named default when a nonempty one is named, and else the first source.

A configuration is written out field by field in declaration order.
-/

namespace SqlAssist.Config

/-- The kind of a data source. -/
inductive SourceKind
  | postgres
  | static
  deriving DecidableEq, Repr

/-- The name of a kind as a configuration writes it. -/
def SourceKind.name : SourceKind → String
  | .postgres => "postgres"
  | .static => "static"

/-- A static catalog: databases, their tables, and the tables' columns with their types. -/
abbrev StaticCatalog := List (String × List (String × List (String × String)))

/-- The completion knobs. -/
structure CompletionSettings where
  maxItems : Int := 200
  statementScope : Bool := true
  deriving Repr

/-- One data source entry. -/
structure SourceConfig where
  name : String
  kind : SourceKind := .postgres
  dsn : Option String := none
  host : Option String := none
  port : Option Int := none
  database : Option String := none
  user : Option String := none
  password : Option String := none
  connectTimeout : Float := 5.0
  catalog : Option StaticCatalog := none

/-- The source shown before any configuration is written. -/
def demoSource : SourceConfig := { name := "demo", kind := .static }

/-- The application configuration. -/
structure AppConfig where
  dataSources : List SourceConfig := [demoSource]
  defaultSource : Option String := none
  completion : CompletionSettings := {}

/-- Why a named source cannot be had. -/
def notFound (name : String) : String := "Data source '" ++ name ++ "' not found."

namespace AppConfig

/-- The first source of a name. -/
def source (c : AppConfig) (name : String) : Except String SourceConfig :=
  match c.dataSources.find? (·.name = name) with
  | some s => .ok s
  | none => .error (notFound name)

/-- The active source: the named default when one is named, else the first source. -/
def active (c : AppConfig) : Except String (Option SourceConfig) :=
  match c.defaultSource with
  | some d => if d.isEmpty then .ok c.dataSources.head? else (c.source d).map some
  | none => .ok c.dataSources.head?

/-- The configuration with `name`, which must name a source, as its default. -/
def withDefault (c : AppConfig) (name : String) : Except String AppConfig :=
  (c.source name).map fun _ => { c with defaultSource := some name }

end AppConfig

/-- An optional text as written out. -/
def optText : Option String → Value
  | some s => .str s
  | none => .null

/-- A catalog as written out. -/
def catalogValue (c : StaticCatalog) : Value :=
  .obj (c.map fun (d, ts) => (d, .obj (ts.map fun (t, cs) => (t, .obj (cs.map fun (n, ty) => (n, .str ty))))))

/-- A source entry as written out. -/
def SourceConfig.toValue (s : SourceConfig) : Value :=
  .obj [("name", .str s.name), ("kind", .str s.kind.name), ("dsn", optText s.dsn),
    ("host", optText s.host), ("port", match s.port with | some p => .int p | none => .null),
    ("database", optText s.database), ("user", optText s.user),
    ("password", optText s.password),
    ("connect_timeout", .float s.connectTimeout),
    ("catalog", match s.catalog with | some c => catalogValue c | none => .null)]

/-- The completion knobs as written out. -/
def CompletionSettings.toValue (c : CompletionSettings) : Value :=
  .obj [("max_items", .int c.maxItems), ("statement_scope", .bool c.statementScope)]

/-- A configuration as written out. -/
def AppConfig.toValue (c : AppConfig) : Value :=
  .obj [("data_sources", .list (c.dataSources.map SourceConfig.toValue)),
    ("default_data_source", optText c.defaultSource), ("completion", c.completion.toValue)]

end SqlAssist.Config
