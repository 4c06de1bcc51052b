import SqlAssist.Schema.Fetch

/-!
# Schema load errors

A failed load names the stage that failed (the database list, the tables of a database
or the columns of a table), the database and table it concerns, and the failure of the
fetch that caused it.  Its message is built from these:

* `Failed to load databases: <cause>`
* `Failed to load tables for database '<db>': <cause>`
* `Failed to load columns for table '<db>.<table>': <cause>`

The names are written in their display form.  A load can also stop on a fetched name
that it cannot file under (a list or an object): that misuse is raised as it is, not as
a load error.
-/

namespace SqlAssist.Schema

/-- The stage of a load. -/
inductive Stage
  | databases
  | tables
  | columns
  deriving DecidableEq, Repr

/-- The name of a stage. -/
def Stage.name : Stage → String
  | .databases => "databases"
  | .tables => "tables"
  | .columns => "columns"

/-- A failed schema load. -/
structure LoadError where
  stage : Stage
  database : Option Value := none
  table : Option Value := none
  cause : FetchError

/-- The message of a failed load. -/
def LoadError.message (e : LoadError) : String :=
  match e.stage with
  | .databases => "Failed to load databases: " ++ e.cause.message
  | .tables => "Failed to load tables for database '" ++ (e.database.getD .null).display ++
      "': " ++ e.cause.message
  | .columns => "Failed to load columns for table '" ++ (e.database.getD .null).display ++
      "." ++ (e.table.getD .null).display ++ "': " ++ e.cause.message

/-- The load error of a failed fetch. -/
def LoadError.ofFetch (key : FetchKey) (cause : FetchError) : LoadError :=
  match key with
  | .databases => ⟨.databases, none, none, cause⟩
  | .tables d => ⟨.tables, some d, none, cause⟩
  | .columns d t => ⟨.columns, some d, some t, cause⟩

/-- What a schema load raises: a load error, or the misuse of a fetched name it could not
file under. -/
inductive LoadFailure
  | stage (e : LoadError)
  | misuse (m : Misuse)

/-- The class name of what a load raises. -/
def LoadFailure.kind : LoadFailure → String
  | .stage _ => "SchemaLoadError"
  | .misuse m => m.kind

/-- The message of what a load raises. -/
def LoadFailure.message : LoadFailure → String
  | .stage e => e.message
  | .misuse m => m.message

end SqlAssist.Schema
