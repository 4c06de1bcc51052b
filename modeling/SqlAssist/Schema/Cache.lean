import SqlAssist.Schema.Snapshot

/-!
# The schema cache

The cache holds one snapshot per data source name.  Beside the snapshots it keeps, per
name, the load task in flight (if any) and a generation count.  Clearing a name drops
its snapshot, detaches its load in flight and advances its generation; a load publishes
its snapshot only if the generation of its name is the one it started under, so a load
that a clear overtook is discarded.

Between two requests no load is in flight: every load finishes within the request that
started it.
-/

namespace SqlAssist.Schema

/-- The schema cache. -/
structure Cache where
  snapshots : List (String × Snapshot) := []
  /-- The load task in flight for a name. -/
  inflight : List (String × Nat) := []
  generations : List (String × Nat) := []
  deriving Inhabited

/-- Remove every entry of a key from an association list. -/
def eraseKey {α : Type} (xs : List (String × α)) (k : String) : List (String × α) :=
  xs.filter (·.1 != k)

namespace Cache

/-- The generation of a name: how often it has been cleared. -/
def generation (c : Cache) (name : String) : Nat := (c.generations.lookup name).getD 0

/-- Forget the schema of a name and detach its load in flight. -/
def clear (c : Cache) (name : String) : Cache :=
  { snapshots := eraseKey c.snapshots name
    inflight := eraseKey c.inflight name
    generations := setEntry c.generations name (c.generation name + 1) }

/-- The snapshot of a name. -/
def snapshot? (c : Cache) (name : String) : Option Snapshot := c.snapshots.lookup name

/-- Whether a name has a snapshot. -/
def has (c : Cache) (name : String) : Bool := (c.snapshot? name).isSome

/-- Publish a snapshot for a name. -/
def publish (c : Cache) (name : String) (s : Snapshot) : Cache :=
  { c with snapshots := setEntry c.snapshots name s }

/-- The databases of a name. -/
def databases? (c : Cache) (name : String) : Option (List Value) :=
  (c.snapshot? name).map (·.databases)

/-- The tables of a database of a name; a database that cannot be a key fails when the
name has a snapshot. -/
def tables? (c : Cache) (name : String) (database : Value) :
    Except Misuse (Option (List Value)) :=
  match c.snapshot? name with
  | some s => s.tablesOf? database
  | none => .ok none

/-- All tables of a name, by database. -/
def allTables? (c : Cache) (name : String) : Option (KeyMap Value (List Value)) :=
  (c.snapshot? name).map (·.tables)

/-- The columns of a table of a name; names that cannot be keys fail when the name has a
snapshot. -/
def columns? (c : Cache) (name : String) (database table : Value) :
    Except Misuse (Option (List ColumnEntry)) :=
  match c.snapshot? name with
  | some s => s.columnsOf? database table
  | none => .ok none

/-- The summary counts of a name. -/
def metadata? (c : Cache) (name : String) : Option Metadata :=
  (c.snapshot? name).map (·.metadata)

/-- The cached spelling of a table of a name. -/
def locate? (c : Cache) (name : String) (table : Value) (database : Option Value) :
    Except Misuse (Option (Value × Value)) :=
  match c.snapshot? name with
  | some s => s.locate table database
  | none => .ok none

end Cache

end SqlAssist.Schema
