import SqlAssist.Schema.Snapshot

/-!
# Fetches

A schema load asks its source three kinds of question, each named by a fetch key:
`databases`, `tables:<db>` and `columns:<db>.<table>`, the names written in their display
form.

A source answers either at once, in the turn the question is asked, or after yielding
once to the other tasks of the load.  The load reads each answer item by item: the
database list and the tables of a database as names, the columns of a table as column
entries.  An answer that cannot be read so, and a source that fails, make the fetch fail
with an error of some kind and a message.
-/

namespace SqlAssist.Schema

/-- The question of one fetch. -/
inductive FetchKey
  | databases
  | tables (database : Value)
  | columns (database table : Value)

/-- The text of a fetch key, as sources name their questions. -/
def FetchKey.text : FetchKey → String
  | .databases => "databases"
  | .tables d => "tables:" ++ d.display
  | .columns d t => "columns:" ++ d.display ++ "." ++ t.display

/-- The key of a question for names: the database list when `database` is absent, else
the tables of `database`. -/
def FetchKey.ofNames : Option Value → FetchKey
  | none => .databases
  | some d => .tables d

/-- A failure of a fetch: the kind of error and its message. -/
structure FetchError where
  kind : String
  message : String
  deriving DecidableEq, Repr

/-- The failure of a fetch whose answer was misused. -/
def FetchError.ofMisuse (m : Misuse) : FetchError := ⟨m.kind, m.message⟩

/-- The answer to a fetch, and whether it comes only after yielding once. -/
structure Reply (α : Type) where
  yields : Bool
  outcome : Except FetchError α

/-- The names in an answer, read item by item. -/
def namesOf (v : Value) : Except FetchError (List Value) :=
  v.items.mapError FetchError.ofMisuse

end SqlAssist.Schema
