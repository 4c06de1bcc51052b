import SqlAssist.Value.Key

/-!
# Schema snapshots

A snapshot is the complete schema of one data source as one load fetched it: the
database names, the table names of each database, and the columns of each table.  Names
are values (`SqlAssist.Value.Key`): a scripted source may name things by numbers or
truth values, and equal names are one key.

The database list keeps every name as fetched, repeats included.  The table map has one
entry per distinct database, in order of first occurrence, and the column map one entry
per distinct pair of a database and one of its tables, in database-then-table order.
Counts are taken over the database list and over the entries of the two maps, so a
repeated table name counts twice in the table count while its columns count once.

`locate` finds the cached spelling of a table: the first exact match in
database-then-table order, else the first case-blind one.  It lowercases names as it
meets them, so a name that is not a text stops it.

A scripted source may answer a column fetch with values that are no columns (the
characters of a text, the keys of an object); such an entry keeps its place and counts as
a column, but has no name to offer, so whoever reads the names of its table fails.
-/

namespace SqlAssist.Schema

/-- A column and its declared type, which a scripted source may give as any values. -/
structure Column where
  name : Value
  type : Value
  deriving Inhabited

/-- An entry of a table's column list as a source returned it: a column, or a value of
another kind in its place. -/
inductive ColumnEntry
  | column (c : Column)
  | other (v : Value)
  deriving Inhabited

/-- The column of an entry; a value in its place lacks a `name`. -/
def ColumnEntry.column? : ColumnEntry → Except Misuse Column
  | .column c => .ok c
  | .other v => .error (.noAttribute v.kindName "name")

/-- The columns of a column list, or the misuse of its first entry that is no column. -/
def ColumnEntry.columns? (es : List ColumnEntry) : Except Misuse (List Column) :=
  es.mapM ColumnEntry.column?

/-- The complete schema of one data source. -/
structure Snapshot where
  databases : List Value
  tables : KeyMap Value (List Value)
  columns : KeyMap (Value × Value) (List ColumnEntry)
  deriving Inhabited

/-- The summary counts of a snapshot. -/
structure Metadata where
  databaseCount : Nat
  tableCount : Nat
  columnCount : Nat
  deriving DecidableEq, Repr

/-- Set the entry of key `k` in an association list: replace the first entry with that
key in place, or add one at the end. -/
def setEntry {κ α : Type} [BEq κ] (xs : List (κ × α)) (k : κ) (v : α) : List (κ × α) :=
  if xs.any (·.1 == k) then xs.map fun e => if e.1 == k then (k, v) else e
  else xs ++ [(k, v)]

/-- The distinct elements of a list, in order of first occurrence. -/
def firstOccurrences {α : Type} [BEq α] : List α → List α
  | [] => []
  | x :: xs => x :: (firstOccurrences xs).filter (· != x)

/-- Assemble a snapshot from the fetched database list and the fetched table and column
lists, keyed by database and by database and table. -/
def Snapshot.assemble (databases : List Value) (tablesOf : KeyMap Value (List Value))
    (columnsOf : KeyMap (Value × Value) (List ColumnEntry)) : Snapshot :=
  let tables := databases.foldl (fun m d => KeyMap.put m d ((KeyMap.get? tablesOf d).getD [])) []
  let keys := tables.flatMap fun (d, ts) => ts.map fun t => (d, t)
  ⟨databases, tables, keys.foldl (fun m k => KeyMap.put m k ((KeyMap.get? columnsOf k).getD [])) []⟩

/-- The summary counts of a snapshot. -/
def Snapshot.metadata (s : Snapshot) : Metadata :=
  ⟨s.databases.length, (s.tables.map (·.2.length)).foldr (· + ·) 0,
    (s.columns.map (·.2.length)).foldr (· + ·) 0⟩

/-- The tables of a database; the database must be able to be a key. -/
def Snapshot.tablesOf? (s : Snapshot) (database : Value) :
    Except Misuse (Option (List Value)) := do
  database.checkKey
  .ok (KeyMap.get? s.tables database)

/-- The columns of a table of a database; both must be able to be keys. -/
def Snapshot.columnsOf? (s : Snapshot) (database table : Value) :
    Except Misuse (Option (List ColumnEntry)) := do
  database.checkKey
  table.checkKey
  .ok (KeyMap.get? s.columns (database, table))

/-- Search the tables `candidates` of database `db` for `table`: the exact match when
`database` is absent or is `db`, or else the first case-blind match, kept as `fallback`
(a candidate is lowercased only while no fallback is known). -/
def locateAmong (table : Value) (database : Option Value) (wanted : String) (db : Value) :
    List Value → Option (Value × Value) → Except Misuse ((Value × Value) ⊕ Option (Value × Value))
  | [], fallback => .ok (.inr fallback)
  | c :: cs, fallback =>
    if c.same table && database.all (fun d => db.same d) then .ok (.inl (db, c))
    else
      match fallback with
      | some _ => locateAmong table database wanted db cs fallback
      | none => do
        let l ← c.lowered
        locateAmong table database wanted db cs (if l == wanted then some (db, c) else none)

/-- Search the databases `entries` for `table`, skipping databases whose lowercase name is
not `wantedDb` when one is wanted. -/
def locateIn (table : Value) (database : Option Value) (wanted : String)
    (wantedDb : Option String) :
    List (Value × List Value) → Option (Value × Value) → Except Misuse (Option (Value × Value))
  | [], fallback => .ok fallback
  | (db, ts) :: rest, fallback => do
    let skip ← match wantedDb with
      | some w => do
        let l ← db.lowered
        pure (l != w)
      | none => pure false
    if skip then locateIn table database wanted wantedDb rest fallback
    else
      match ← locateAmong table database wanted db ts fallback with
      | .inl hit => .ok (some hit)
      | .inr fallback => locateIn table database wanted wantedDb rest fallback

/-- The cached spelling of a table.  With a `database` that counts as true, only databases
whose lowercase is its lowercase are searched.  The first table equal to `table` in a
database equal to `database` (any database when `database` is absent) wins; otherwise
the first table whose lowercase is the lowercase of `table`. -/
def Snapshot.locate (s : Snapshot) (table : Value) (database : Option Value) :
    Except Misuse (Option (Value × Value)) := do
  let wanted ← table.lowered
  let wantedDb ← match database with
    | some d => if d.isFalsy then pure none else some <$> d.lowered
    | none => pure none
  locateIn table database wanted wantedDb s.tables none

end SqlAssist.Schema
