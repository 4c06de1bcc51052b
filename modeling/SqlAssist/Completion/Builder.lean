import SqlAssist.Completion.Item
import SqlAssist.Completion.Keyword
import SqlAssist.Schema.Cache
import SqlAssist.Value.Display

/-!
# Building completion items

The batches of items offered for each kind of name.

* Databases: detail `Database`, documentation `Database: <name>`.
* Tables: detail `Table in database: <db>` when the database is known, else `Table`;
  documentation `Type: TABLE`.  Tables of all databases are built database by database
  and merged by `rank`.
* Columns: detail `<type> (<table>)`, or `<type> (<alias> → <table>)` when reached
  through a different alias, or the bare type when no table is named; documentation
  `Type: <type>` with a line `Table: <table>` and ` (alias: <alias>)`.  The type of a
  name is the type of the last column of that name.
* Keywords: matched against the typed word in uppercase; detail from the catalog,
  documentation `SQL keyword: <keyword>`.
* Columns of referenced tables: each table is located in the cache, its columns whose
  names were not offered by an earlier table are built, and the batches are merged by
  `rank`; so each column name is offered once, with the details of the first table that
  has it.

Names come from the cache as values (`SqlAssist.Value.Key`).  A name is matched only as a
text, so any other candidate stops the batch with the misuse of lowercasing it; a column
name is first filed as a key, for its type and for the names already offered, so a list
or an object stops it earlier.  A database or table shown in a detail is written in its
display form, and counts as named only when it is not false.
-/

namespace SqlAssist.Completion

open Schema

/-- The texts of candidate names, in order; a candidate that is not a text cannot be
lowercased to be matched. -/
def candidateTexts (names : List Value) : Except Misuse (List String) :=
  names.mapM Value.asText

/-- Items for database names. -/
def databaseItems (names : List Value) (typed : String) : Except Misuse (List Item) := do
  let names ← candidateTexts names
  .ok (build .database names typed (fun _ => .str "Database") (fun n => "Database: " ++ n))

/-- The detail of a table item: the table's database, when known and not false. -/
def tableDetail (database : Option Value) : String :=
  match database with
  | some d => if d.isFalsy then "Table" else "Table in database: " ++ d.display
  | none => "Table"

/-- Items for the tables of a database, named when known and not false. -/
def tableItems (names : List Value) (typed : String) (database : Option Value := none) :
    Except Misuse (List Item) := do
  let names ← candidateTexts names
  .ok (build .table names typed (fun _ => .str (tableDetail database)) (fun _ => "Type: TABLE"))

/-- Items for the tables of every database, ranked together. -/
def allTableItems (tables : KeyMap Value (List Value)) (typed : String) :
    Except Misuse (List Item) := do
  let batches ← tables.mapM fun (d, ts) => tableItems ts typed (some d)
  .ok (rank batches.flatten)

/-- Whether an optional text is present and nonempty. -/
def given : Option String → Bool
  | some s => !s.isEmpty
  | none => false

/-- Items for the column entries of the table `table` reached through `alias`.  The type
of each name is filed first, by name, so every entry must be a column with a name that
can be a key; then every name must be a text to be matched. -/
def columnItems (entries : List ColumnEntry) (typed : String) (table : Option Value := none)
    (aliasName : Option String := none) : Except Misuse (List Item) := do
  let columns ← entries.mapM fun e => do
    let c ← e.column?
    c.name.checkKey
    .ok c
  let names ← candidateTexts (columns.map (·.name))
  let typeOf := fun (n : String) =>
    ((columns.reverse.find? fun (c : Column) => c.name.same (.str n)).map Column.type).getD .null
  let tableGiven := match table with
    | some t => !t.isFalsy
    | none => false
  let t := (table.getD .null).display
  let a := aliasName.getD ""
  let aliased := given aliasName && tableGiven && !(table.getD .null).same (.str a)
  let detail := fun n =>
    if aliased then .str ((typeOf n).display ++ " (" ++ a ++ " → " ++ t ++ ")")
    else if tableGiven then .str ((typeOf n).display ++ " (" ++ t ++ ")")
    else typeOf n
  let documentation := fun n =>
    if aliased then "Type: " ++ (typeOf n).display ++ "\nTable: " ++ t ++ " (alias: " ++ a ++ ")"
    else if tableGiven then "Type: " ++ (typeOf n).display ++ "\nTable: " ++ t
    else "Type: " ++ (typeOf n).display
  .ok (build .column names typed detail documentation)

/-- Items for keywords of a catalog, matched against the typed word in uppercase. -/
def keywordItems (entries : List KeywordEntry) (typed : String) : List Item :=
  build .keyword (entries.map (·.keyword)) (Text.upperString typed)
    (fun k => detailOf entries k)
    (fun k => "SQL keyword: " ++ k)

/-- The column batches of the referenced tables, each name once: the batch of each located
table holds its columns whose names no earlier batch offered.  Checking a name against
those offered files it as a key, so each entry must be a column with such a name. -/
def freshBatches (cache : Cache) (source : String) (database : Option Value)
    (typed : String) : List String → List Value → Except Misuse (List Item)
  | [], _ => .ok []
  | t :: rest, seen => do
    match ← cache.locate? source (.str t) database with
    | none => freshBatches cache source database typed rest seen
    | some (d, tb) =>
      match ← cache.columns? source d tb with
      | none | some [] => freshBatches cache source database typed rest seen
      | some entries =>
        let fresh ← entries.filterM fun e => do
          let c ← e.column?
          c.name.checkKey
          .ok (!seen.any (·.same c.name))
        let freshNames := fresh.filterMap fun
          | .column c => some c.name
          | .other _ => none
        let batch ← columnItems fresh typed (some tb)
        let later ← freshBatches cache source database typed rest (seen ++ freshNames)
        .ok (batch ++ later)

/-- Items for the columns of the referenced tables, each column name once, ranked. -/
def columnsFromTables (cache : Cache) (source : String) (tables : List String)
    (database : Option Value) (typed : String) : Except Misuse (List Item) :=
  (freshBatches cache source database typed tables []).map rank

end SqlAssist.Completion
