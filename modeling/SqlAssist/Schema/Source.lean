import SqlAssist.Postgres.Adapter

/-!
# Schema sources

Where a schema load gets its answers.

* A *catalog* source serves a fixed catalog (databases, their tables, their columns, in
  catalog order).  Unknown databases and tables have no tables and no columns; a name it
  is asked about must be able to be a key.  A fetch whose key is listed among its
  failures with a message other than the absent value fails with that message, of kind
  `AdapterError`.  Every answer comes after yielding once.
* A *scripted* source answers each key as its script says: a value, a failure after
  yielding once, or a failure at once, when the question is asked.  Keys missing from
  the script answer an empty list.  A list given for the columns of a table is read item
  by item as columns, each made of its items at positions 0 and 1, so a text of two
  characters stands for a column and a shorter one fails.
* A *PostgreSQL* source (`SqlAssist.Postgres.Adapter`) answers at once.

Catalog and scripted sources record the key of every question they are asked.  Whatever
a source answers is read item by item by the load (`Value.items`): names for the
database list and for the tables of a database, column entries for the columns of a
table, where a value that is no column keeps its place.
-/

namespace SqlAssist.Schema

/-- The zero that counts are summed from, the core one: fixed here, so that a sum of counts
reads the same whatever other instances are loaded. -/
@[reducible] def countZero : Zero Nat := Zero.ofOfNat0

attribute [local instance] countZero

/-- A fixed catalog: databases with their tables with their columns, named by texts. -/
abbrev Catalog := List (String × List (String × List Column))

/-- A column of a catalog, by name and type. -/
def col (n ty : String) : Column := ⟨.str n, .str ty⟩
/-- The demonstration catalog. -/
def demoCatalog : Catalog :=
  [("shop",
    [("users", [col "id" "int", col "email" "varchar(255)", col "name" "varchar(100)",
        col "created_at" "datetime"]),
     ("orders", [col "id" "int", col "user_id" "int", col "total" "decimal(10,2)",
        col "created_at" "datetime"]),
     ("order_items", [col "id" "int", col "order_id" "int", col "product_id" "int",
        col "quantity" "int"]),
     ("products", [col "id" "int", col "name" "varchar(200)", col "price" "decimal(10,2)"])]),
   ("analytics",
    [("sessions", [col "id" "int", col "user_id" "int", col "started_at" "datetime",
        col "device" "varchar(50)"]),
     ("events", [col "id" "int", col "session_id" "int", col "name" "varchar(100)",
        col "payload" "json"])])]

/-- The entry of a catalog named `name`; the name must be able to be a key. -/
def catalogLookup {α : Type} (entries : List (String × α)) (name : Value) :
    Except Misuse (Option α) := do
  name.checkKey
  .ok ((entries.find? fun e => Value.same (.str e.1) name).map (·.2))

/-- The names a catalog gives: its databases, or the tables of `database`. -/
def catalogNames (c : Catalog) : Option Value → Except Misuse (List Value)
  | none => .ok (c.map fun e => .str e.1)
  | some d => do
    let tables ← catalogLookup c d
    .ok ((tables.getD []).map fun e => .str e.1)

/-- The columns a catalog gives for a table of a database. -/
def catalogColumns (c : Catalog) (database table : Value) : Except Misuse (List Column) := do
  let tables ← catalogLookup c database
  let columns ← catalogLookup (tables.getD []) table
  .ok (columns.getD [])

/-- A column made of the items of a value at positions 0 and 1. -/
def columnOf (v : Value) : Except Misuse Column := do
  let name ← v.index 0
  let type ← v.index 1
  .ok ⟨name, type⟩

/-- The column entries of a scripted answer for the columns of a table: a list is read
item by item as columns; any other value is read item by item as it is. -/
def scriptedColumns (v : Value) : Except Misuse (List ColumnEntry) :=
  match v with
  | .list xs => xs.mapM fun x => (columnOf x).map .column
  | v => v.items.map fun xs => xs.map .other

/-- What a script says for one key. -/
inductive Behaviour
  | returns (v : Value)
  /-- Fail after yielding once. -/
  | fails (e : FetchError)
  /-- Fail at once, when the question is asked. -/
  | failsAtOnce (e : FetchError)

/-- A schema source. -/
inductive Source
  | catalog (c : Catalog) (failures : List (String × Value)) (asked : List String)
  | scripted (script : List (String × Behaviour)) (asked : List String)
  | postgres (a : Postgres.Adapter)

/-- A catalog source with no failures. -/
def Source.ofCatalog (c : Catalog) : Source := .catalog c [] []

/-- The keys a source has been asked, in order. -/
def Source.asked : Source → List String
  | .catalog _ _ ks => ks
  | .scripted _ ks => ks
  | .postgres _ => []

/-- The failure a catalog source lists for a key, unless its message is absent. -/
def failureOf (failures : List (String × Value)) (key : FetchKey) : Option FetchError :=
  match failures.lookup key.text with
  | some .null | none => none
  | some m => some ⟨"AdapterError", m.display⟩

/-- Ask a source one question and read its answer with `read`: the source as it is
afterwards, and its reply. -/
def Source.ask {α : Type} (s : Source) (key : FetchKey)
    (fromCatalog : Catalog → Except Misuse α) (fromScript : Value → Except Misuse α)
    (fromServer : Postgres.Adapter → Postgres.Adapter × Except FetchError α) :
    Source × Reply α :=
  match s with
  | .catalog c failures ks =>
    let reply := match failureOf failures key with
      | some e => Reply.mk true (.error e)
      | none => Reply.mk true ((fromCatalog c).mapError FetchError.ofMisuse)
    (.catalog c failures (ks ++ [key.text]), reply)
  | .scripted script ks =>
    let reply := match script.lookup key.text with
      | some (.returns v) => Reply.mk true ((fromScript v).mapError FetchError.ofMisuse)
      | some (.fails e) => Reply.mk true (.error e)
      | some (.failsAtOnce e) => Reply.mk false (.error e)
      | none => Reply.mk true ((fromScript (.list [])).mapError FetchError.ofMisuse)
    (.scripted script (ks ++ [key.text]), reply)
  | .postgres a =>
    let (a, outcome) := fromServer a
    (.postgres a, Reply.mk false outcome)

/-- Ask a source for names: the database list when `database` is absent, else the tables
of `database`. -/
def Source.askNames (s : Source) (database : Option Value) : Source × Reply (List Value) :=
  s.ask (.ofNames database) (catalogNames · database) Value.items
    (·.fetchNames database)

/-- Ask a source for the columns of a table of a database. -/
def Source.askColumns (s : Source) (database table : Value) :
    Source × Reply (List ColumnEntry) :=
  s.ask (.columns database table)
    (fun c => (catalogColumns c database table).map (·.map .column)) scriptedColumns
    (·.fetchColumns database table)

/-- As many items as any answer of the source can hold: no list it answers, to any
question, is longer. -/
def Source.width : Source → Nat
  | .catalog c _ _ => c.length + (c.map fun e => e.2.length + (e.2.map (·.2.length)).sum).sum
  | .scripted script _ =>
    (script.map fun e => match e.2 with
      | .returns v => (v.items.toOption.getD []).length
      | _ => 0).sum
  | .postgres a =>
    a.server.schemas.length + (a.server.tables.map (·.2.length)).sum +
      (a.server.columns.map (·.2.length)).sum

end SqlAssist.Schema
