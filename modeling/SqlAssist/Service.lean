import SqlAssist.Completion.Builder
import SqlAssist.Cursor.Context
import SqlAssist.Statement.Bounds
import SqlAssist.Log

/-!
# The completion service

A service answers completion requests for one data source from a schema cache.

`analyze` scopes the buffer to the statement under the cursor offset (when scoping is on,
the buffer is nonempty and an offset is known) and reads the cursor context from the
line.  `complete` then offers nothing while the data source has no cached schema, and
otherwise builds the items the context asks for:

* a database: the cached databases;
* a table of a named database: the tables of the database of that name, matched exactly
  and else case-blind; a table of no named database: the tables of every database;
* a column of a named table: the columns of that table, located in the named database
  and else anywhere; a column of no named table: the columns of the tables the statement
  references, or, when it references none, every column of every table;
* anything else: keywords.

At most `maxItems` items are kept, counted as a slice bound: a bound that counts as false
keeps all of them, a negative bound drops that many from the end, and a bound that is
not an integer (or a truth value) cannot bound them.  Reading the cache never changes
it.

Names in the cache are values (`SqlAssist.Value.Key`): a name that has to be lowercased
or filed as a key and cannot be stops the request with that misuse.
-/

namespace SqlAssist

open Completion Schema

/-- A completion service over a schema cache, for one data source. -/
structure Service where
  cache : Cache
  source : String
  keywords : List KeywordEntry := defaultKeywords
  statementScope : Bool := true
  maxItems : Value := .int 200

/-- The cursor context of a request, the text it was read against, and the records logged
while reading it. -/
structure Analysis where
  context : Cursor.Context
  query : Option String
  log : List Log.Record

namespace Service

/-- The component name of the statement scoper's records. -/
def statementsComponent : String := "abcql.sqlintel.statements"

/-- The component name of the service's records. -/
def serviceComponent : String := "abcql.sqlintel.service"

/-- The statement of `text` under `offset`, with the record of a buffer the statement
reader rejected. -/
def scope (text : String) (offset : Int) : String × List Log.Record :=
  let cs := text.toList
  (String.ofList (Statement.statementAt cs offset),
    if Statement.rejected cs then
      [⟨.debug, statementsComponent, "Tokenizer rejected buffer, splitting on raw semicolons"⟩]
    else [])

/-- The context under column `cursor` of `line`, read against the statement of
`fullQuery` under `offset`. -/
def analyze (s : Service) (line : String) (cursor : Int) (fullQuery : Option String)
    (offset : Option Int) : Analysis :=
  let (query, log) := match fullQuery, offset with
    | some q, some o =>
      if !q.isEmpty && s.statementScope then
        let (t, log) := scope q o
        (some t, log)
      else (fullQuery, [])
    | _, _ => (fullQuery, [])
  ⟨Cursor.parse line cursor query, query, log⟩

/-- The first of `databases` whose lowercase name is `wanted`. -/
def firstLowered (wanted : String) : List Value → Except Misuse (Option Value)
  | [] => .ok none
  | d :: ds => do
    let l ← d.lowered
    if l == wanted then .ok (some d) else firstLowered wanted ds

/-- The cached database whose name is `name`, else the first whose lowercase name is that
of `name`. -/
def matchDatabase (s : Service) (name : String) : Except Misuse (Option Value) :=
  let databases := (s.cache.databases? s.source).getD []
  if databases.any (·.same (.str name)) then .ok (some (.str name))
  else firstLowered (Text.lowerString name) databases

/-- Items for a table context. -/
def tableItemsFor (s : Service) (c : Cursor.Context) : Except Misuse (List Item) :=
  if given c.database then do
    match ← s.matchDatabase (c.database.getD "") with
    | none => .ok []
    | some d =>
      let tables ← s.cache.tables? s.source d
      tableItems (tables.getD []) c.word (some d)
  else
    match s.cache.allTables? s.source with
    | none | some [] => .ok []
    | some all => allTableItems all c.word

/-- Items for a column of a named table. -/
def qualifiedColumnItems (s : Service) (c : Cursor.Context) : Except Misuse (List Item) := do
  let table : Value := .str (c.table.getD "")
  let first ← s.cache.locate? s.source table (c.database.map .str)
  let located ← match first with
    | none => if given c.database then s.cache.locate? s.source table none else .ok none
    | found => .ok found
  match located with
  | none => .ok []
  | some (d, t) =>
    match ← s.cache.columns? s.source d t with
    | none | some [] => .ok []
    | some entries => columnItems entries c.word (some t) c.viaAlias

/-- Items for every column of every table, ranked. -/
def everyColumnItems (s : Service) (typed : String) : Except Misuse (List Item) := do
  let batches ← ((s.cache.allTables? s.source).getD []).mapM fun (d, ts) =>
    ts.mapM fun t => do
      match ← s.cache.columns? s.source d t with
      | none | some [] => .ok []
      | some entries => columnItems entries typed (some t)
  .ok (rank batches.flatten.flatten)

/-- Items for a column of no named table: those of the referenced tables, or every
column when the statement references none. -/
def scopedColumnItems (s : Service) (c : Cursor.Context) (query : String) :
    Except Misuse (List Item) :=
  match Alias.tableNames query with
  | [] => s.everyColumnItems c.word
  | names => columnsFromTables s.cache s.source names none c.word

/-- Items for a context, read against `query`. -/
def itemsFor (s : Service) (c : Cursor.Context) (query : String) : Except Misuse (List Item) :=
  match c.expect with
  | .database =>
    match s.cache.databases? s.source with
    | none | some [] => .ok []
    | some ds => databaseItems ds c.word
  | .table => s.tableItemsFor c
  | .column => if given c.table then s.qualifiedColumnItems c else s.scopedColumnItems c query
  | .keyword => .ok (keywordItems s.keywords c.word)

/-- The first items up to a slice bound: a bound that counts as false keeps every item,
an integer or a truth value keeps that many (a negative one drops that many from the
end), and any other bound cannot bound a slice. -/
def limit {α : Type} (bound : Value) (items : List α) : Except Misuse (List α) :=
  if bound.isFalsy then .ok items
  else
    match bound.asInt? with
    | some b => .ok (if 0 < b then items.take b.toNat else items.take (items.length - b.natAbs))
    | none => .error .sliceBound

/-- The items offered under column `cursor` of `line`, with the records logged; or the
misuse of a name that stopped them. -/
def complete (s : Service) (line : String) (cursor : Int) (fullQuery : Option String)
    (offset : Option Int) : Except Misuse (List Item) × List Log.Record :=
  let a := s.analyze line cursor fullQuery offset
  if !s.cache.has s.source then
    (.ok [], a.log ++ [⟨.debug, serviceComponent, "Schema not cached; no completions"⟩])
  else
    ((s.itemsFor a.context (a.query.getD line)).bind (limit s.maxItems),
      a.log ++ [⟨.debug, serviceComponent, "Completion context"⟩])

end Service

end SqlAssist
