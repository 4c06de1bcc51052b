import SqlAssist.Cli.Parse
import SqlAssist.Config.Load
import SqlAssist.Session
import SqlAssist.Json.Write

/-!
# The command line program

```
abcql [-h] [--config CONFIG] [--data-source DATA_SOURCE] [-v] {complete,schema} ...
```

The program loads the configuration (the given file, else the default one), opens a
session that reports its notices as log records, and attaches one buffer to the chosen
data source (the named one, else the default), which loads its schema.

* `complete SQL [--cursor N]` puts the text in the buffer, turns the cursor offset
  (the end of the text by default) into a line and column, and prints the completion
  items the server answers.
* `schema` prints the loaded schema: each database, its tables, and each table's
  columns with their types.

The result is printed as JSON indented by two, non-ASCII characters as they are.  A data
source that cannot be had or a schema that fails to load prints its message to the error
stream and exits with 1.  Log records at or above the threshold (warnings, or everything
with `-v`) go to the error stream as `LEVEL component: message`.

An option whose only value was a dropped `--` holds the empty list.  As a configuration
path it names no file, so the default file is read; as a data source it names none that
exists; as a cursor it cannot be compared with a number, and the program stops with an
error it does not catch.
-/

namespace SqlAssist.Cli

/-- The help option every parser has. -/
def helpAction : Action := ⟨["-h", "--help"], "help", .help, some "show this help message and exit", false⟩

/-- The top-level parser. -/
def mainParser : Parser :=
  { prog := "abcql",
    description := some "Command line access to schema loading and completion.",
    actions := [helpAction,
      ⟨["--config"], "config", .store false, some "Path to config.toml", false⟩,
      ⟨["--data-source"], "data_source", .store false,
        some "Data source name (defaults to the configured default)", false⟩,
      ⟨["-v", "--verbose"], "verbose", .flag, some "Enable debug logging", false⟩,
      ⟨[], "command", .command [("complete", "Print completion items for SQL text"),
        ("schema", "Print the loaded schema as JSON")], none, true⟩] }

/-- The parser of `complete`. -/
def completeParser : Parser :=
  { prog := "abcql complete",
    actions := [helpAction,
      ⟨[], "sql", .store false, some "SQL text; use a literal newline for multi-line buffers", true⟩,
      ⟨["--cursor"], "cursor", .store true, some "Cursor offset (defaults to end of text)", false⟩] }

/-- The parser of `schema`. -/
def schemaParser : Parser := { prog := "abcql schema", actions := [helpAction] }

/-- A value the command line supplied for an option: one, or the empty list. -/
inductive Supplied (α : Type)
  | one (a : α)
  | emptyList
  deriving DecidableEq, Repr

/-- What to do. -/
inductive Command
  | complete (sql : String) (cursor : Option (Supplied Int))
  | schema
  deriving DecidableEq, Repr

/-- A parsed command line. -/
structure Invocation where
  config : Option String := none
  dataSource : Option (Supplied String) := none
  verbose : Bool := false
  command : Command
  deriving DecidableEq, Repr

/-- How a run of the program ends: with an exit code and what it printed, or with an error
it does not catch, by kind and message. -/
inductive Exit
  | normal (s : Stop)
  | uncaught (kind message : String)
  deriving DecidableEq, Repr

/-- A stored text value. -/
def textOf (p : Parsed) (k : String) : Option String :=
  match p.values.lookup k with
  | some (.text s) => some s
  | _ => none

/-- A stored text value, or the empty list. -/
def suppliedText (p : Parsed) (k : String) : Option (Supplied String) :=
  match p.values.lookup k with
  | some (.text s) => some (.one s)
  | some .emptyList => some .emptyList
  | _ => none

/-- A stored integer value, or the empty list. -/
def suppliedInt (p : Parsed) (k : String) : Option (Supplied Int) :=
  match p.values.lookup k with
  | some (.int i) => some (.one i)
  | some .emptyList => some .emptyList
  | _ => none

/-- Parse a command line. -/
def parseCommandLine (args : List String) : Except Stop Invocation := do
  let none' : String → List String → Except Stop Parsed := fun _ _ => .ok {}
  let runSub := fun (name : String) (rest : List String) =>
    if name = "complete" then completeParser.parseWith none' rest
    else schemaParser.parseWith none' rest
  let parsed ← mainParser.parseWith runSub args
  if !parsed.extras.isEmpty then
    .error (mainParser.fail ("unrecognized arguments: " ++ " ".intercalate parsed.extras))
  else
    let command := if textOf parsed "command" = some "complete" then
        Command.complete ((textOf parsed "sql").getD "") (suppliedInt parsed "cursor")
      else .schema
    .ok { config := textOf parsed "config", dataSource := suppliedText parsed "data_source",
          verbose := (parsed.values.lookup "verbose").isSome, command }

/-- The printed lines of the records at or above a threshold. -/
def logText (threshold : Log.Level) (records : List Log.Record) : String :=
  String.join ((records.filter fun r => threshold.rank ≤ r.level.rank).map fun r => r.line ++ "\n")

/-- The loaded schema of a data source: databases, their tables, and each table's
columns with their types.  Configured sources answer with columns only; an entry that is
no column would be written as `null`. -/
def schemaDump (s : Session) (name : String) : Value :=
  match s.world.cache.snapshot? name with
  | none => .obj []
  | some snap =>
    .obj (snap.tables.map fun (d, ts) => (d.display, .obj ((Value.distinct ts).map fun t =>
      (t.display, .list (((KeyMap.get? snap.columns (d, t)).getD []).map fun
        | .column c => .obj [("name", c.name), ("type", c.type)]
        | .other _ => .null)))))

/-- The entries the command's event loop holds on the call stack below the configuration
loader, beyond those of a direct load. -/
def eventLoopFrames : Nat := 10

/-- Run a parsed command line with the configuration file as read. -/
def execute (inv : Invocation) (file : Config.FileState) : Exit :=
  match Config.load (Config.readerStack - eventLoopFrames) file with
  | .error (kind, message) => .uncaught kind message
  | .ok (config, configLog) =>
  let threshold : Log.Level := if inv.verbose then .debug else .warning
  let s := (Session.ofConfig config).subscribe .report
  let s := { s with world := { s.world with log := configLog } }
  let sql := match inv.command with
    | .complete sql _ => sql
    | .schema => ""
  let buffer := Buffer.ofText sql
  let (s, attached) : Session × Except SessionError String := match inv.dataSource with
    | some .emptyList => (s, .error (.noSource (Config.notFound "[]")))
    | some (.one n) => s.attach "cli" buffer (some n)
    | none => s.attach "cli" buffer none
  match attached with
  | .error e =>
    let before := s.world.log
    let s := s.close
    .normal ⟨1, "", logText threshold before ++ e.message ++ "\n" ++
      logText threshold (s.world.log.drop before.length)⟩
  | .ok name =>
    let answer : Except (String × String) (Session × Value) := match inv.command with
      | .complete _ (some .emptyList) =>
        .error ("TypeError", "'>' not supported between instances of 'int' and 'list'")
      | .complete _ cursor =>
        let offset := match cursor with
          | some (.one i) => i
          | _ => buffer.text.length
        let (line, character) := buffer.positionOf offset
        let params := Value.obj [("position", .obj [("line", .int line), ("character", .int character)])]
        let (s, answer) := s.serve "cli" fun srv =>
          let r := srv.dispatch (.str "textDocument/completion") params
          (r.outcome, r.log)
        .ok (s, match answer with | some (.ok v) => v | _ => .list [])
      | .schema => .ok (s, schemaDump s name)
    match answer with
    | .error (kind, message) => .uncaught kind message
    | .ok (s, result) =>
      let s := s.close
      .normal ⟨0, Json.render Json.Style.pretty result ++ "\n", logText threshold s.world.log⟩

/-- Run a command line; `readConfig` reads the configuration file at a path, or the
default file for `none`. -/
def run (args : List String) (readConfig : Option String → Config.FileState) : Exit :=
  match parseCommandLine args with
  | .error stop => .normal stop
  | .ok inv => execute inv (readConfig inv.config)

end SqlAssist.Cli
