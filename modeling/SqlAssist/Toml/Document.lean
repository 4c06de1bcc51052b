import SqlAssist.Toml.Atom

/-!
# TOML: documents

A document is read statement by statement: key/value pairs, table headers `[a.b]` and
array-of-tables headers `[[a.b]]`, each followed by an optional comment and the end of
its line.  Values nest: arrays `[…]` may span lines and end in a comma, inline tables
`{…}` stay on one line and may not.

What may be defined is kept as marks on keys:

* a table opened by a header, and every table a dotted key goes through, is *explicit*
  and cannot be opened by a header again (the dotted-key tables only from the next
  header on);
* an inline table or an array given as a value is *frozen*, with everything under it,
  and can never be extended;
* a new `[[a]]` item clears the marks under `a`, so its sub-tables can be opened again.

A key is defined once; on the way to a table, an array of tables is entered at its last
item, and any other value is in the way.

Recursion is bounded by fuel: every step consumes at least one character before the
next call, so a fuel of a few times the document's length is never exhausted.

Nesting is bounded as well, the way a recursive reader's call stack bounds it: the
reader starts with its own entry at depth 0, a statement's key/value pair sits at depth
2 and its value at depth 3, and each step announces its calls as `Lexical` describes.
An array's items sit two levels below the array's value and an inline table's values
three levels below, so on a stack of `limit` entries a value that nests too deep fails
with `Failure.tooDeep` rather than as text that does not read.
-/

namespace SqlAssist.Toml

/-- The contents of a table, in definition order. -/
abbrev Table := List (String × Value)

/-- Set a key of a table: in place when it is there, else at the end. -/
def putField (t : Table) (k : String) (v : Value) : Table :=
  if t.any (·.1 == k) then t.map fun e => if e.1 == k then (k, v) else e else t ++ [(k, v)]

/-- The marks a key can carry. -/
inductive Mark
  | frozen
  | explicit
  deriving DecidableEq, Repr

/-- A mark on a key, for the key alone or for everything under it as well. -/
structure MarkEntry where
  key : List String
  mark : Mark
  recursive : Bool
  deriving DecidableEq, Repr

/-- The marks of a document. -/
abbrev Marks := List MarkEntry

/-- Whether a key carries a mark: its own, or a recursive one of a table above it. -/
def Marks.has (ms : Marks) (key : List String) (m : Mark) : Bool :=
  !key.isEmpty && ms.any fun e =>
    e.mark = m && (e.key = key ||
      (e.recursive && !e.key.isEmpty && e.key.length < key.length && e.key.isPrefixOf key))

/-- Clear the marks of a key and of everything under it. -/
def Marks.clearUnder (ms : Marks) (key : List String) : Marks :=
  ms.filter fun e => !key.isPrefixOf e.key

/-- Whether a value is a table or an array. -/
def isContainer : Value → Bool
  | .obj _ | .list _ => true
  | _ => false

/-- Change the table at `path`, creating the tables missing on the way; an array on the
way is entered at its last item when `intoLists`. -/
def updateNest (intoLists : Bool) (f : Table → Except Failure Table) :
    List String → Table → Except Failure Table
  | [], t => f t
  | k :: ks, t =>
    let updated : Except Failure Value := match (t.lookup k).getD (.obj []) with
      | .obj u => (updateNest intoLists f ks u).map Value.obj
      | .list items =>
        if intoLists then
          match items.getLast? with
          | some (.obj u) =>
            (updateNest intoLists f ks u).map fun u' => .list (items.dropLast ++ [.obj u'])
          | _ => .error (.invalid "cannot overwrite a value")
        else .error (.invalid "cannot overwrite a value")
      | _ => .error (.invalid "cannot overwrite a value")
    updated.map (putField t k)

/-- Define a new key of a table. -/
def defineIn (stem : String) (v : Value) (t : Table) : Except Failure Table :=
  if (t.lookup stem).isSome then .error (.invalid "cannot overwrite a value") else .ok (putField t stem v)

/-- One part of a key, bare or a single-line string, read by a step whose entry is at
`depth`; at the end of the input, looking at the missing character is a comparison the
stack counts. -/
def keyPart (limit depth : Nat) : Step String := fun cs => do
  call limit depth .function
  match cs with
  | c :: _ =>
    if isBareKeyChar c then do
      call limit (depth + 1) .function
      let (k, r) := cs.span isBareKeyChar
      .ok (String.ofList k, r)
    else if c = '\'' then literalString limit (depth + 1) cs
    else if c = '"' then basicString limit (depth + 1) cs
    else fail limit depth .plain false "invalid key"
  | [] => do
    call limit (depth + 1) .comparison
    fail limit depth .plain true "invalid key"

/-- A key, parts joined by dots with blanks allowed around the dots, read by a step whose
entry is at `depth`. -/
def keyPath (limit depth : Nat) : Nat → Step (List String)
  | 0, _ => .error (.invalid "key too long")
  | fuel + 1, cs => do
    call limit depth .function
    let (k, r) ← keyPart limit (depth + 1) cs
    match skipBlanks r with
    | '.' :: more =>
      let (ks, r) ← keyPath limit depth fuel (skipBlanks more)
      .ok (k :: ks, r)
    | r => .ok ([k], r)

/-- The calls a date or time value makes after its text is read, as a value whose entry
is at `depth`: a date is made by one built-in, a date-time by another, and an offset
`±HH:MM` takes a cached function that compares its sign and makes the offset with two
built-ins. -/
def dateTimeCalls (limit depth : Nat) (text : List Char) : Except Failure Unit := do
  call limit (depth + 1) .function
  if 10 < text.length && (text.drop 10).any (fun c => c = '+' || c = '-') then do
    call limit (depth + 2) .builtin
    call limit (depth + 3) .function
    call limit (depth + 4) .comparison
  call limit (depth + 2) .builtin

/-- A value that is neither a string, a truth value, an array nor a table, as a value
whose entry is at `depth`.  A number is made by a function that asks its match for the
text with a built-in; `inf` and `nan` make no call.  At the end of the input, looking at
the missing character is a comparison the stack counts. -/
def atom (limit depth : Nat) (cs : List Char) : Except Failure (Value × List Char) :=
  match dateTime cs with
  | some (text, valid, r) => do
    dateTimeCalls limit depth text
    if valid then .ok (.dateTime (String.ofList text), r)
    else fail limit depth .plain false "invalid date"
  | none =>
    match localTime cs with
    | some found => do
      call limit (depth + 1) .function
      call limit (depth + 2) .builtin
      .ok found
    | none =>
      match number cs with
      | some found => do
        call limit (depth + 1) .function
        call limit (depth + 2) .builtin
        .ok found
      | none =>
        match specialFloat cs with
        | some found => .ok found
        | none => do
          if cs.isEmpty then call limit (depth + 1) .comparison
          fail limit depth .plain cs.isEmpty "invalid value"

mutual

/-- A value whose entry is at `depth`.  A truth value is checked with a built-in, and an
array or an inline table is read by a step one level deeper. -/
def value (limit : Nat) : Nat → Nat → Step Value
  | 0, _, _ => .error (.invalid "nested too deep")
  | fuel + 1, depth, cs => do
    call limit depth .function
    match cs with
    | '"' :: _ | '\'' :: _ => (string limit depth cs).map fun (s, r) => (.str s, r)
    | 't' :: rest => do
      call limit (depth + 1) .builtin
      match rest with
      | 'r' :: 'u' :: 'e' :: r => .ok (.bool true, r)
      | _ => atom limit depth cs
    | 'f' :: rest => do
      call limit (depth + 1) .builtin
      match rest with
      | 'a' :: 'l' :: 's' :: 'e' :: r => .ok (.bool false, r)
      | _ => atom limit depth cs
    | '[' :: r => array limit fuel (depth + 1) r
    | '{' :: r => inlineTable limit fuel (depth + 1) r
    | _ => atom limit depth cs

/-- The rest of an array after its opening bracket, read by a step whose entry is at
`depth`: its items are values one level deeper, and a built-in looks for the closing
bracket. -/
def array (limit : Nat) : Nat → Nat → Step Value
  | 0, _, _ => .error (.invalid "nested too deep")
  | fuel + 1, depth, cs => do
    call limit depth .function
    let cs ← skipArraySpace limit (depth + 1) cs
    call limit (depth + 1) .builtin
    match cs with
    | ']' :: r => .ok (.list [], r)
    | _ => items limit fuel depth [] cs

/-- The items of an array from its next item on, after the items `acc`, for the array
step whose entry is at `depth`. -/
def items (limit : Nat) : Nat → Nat → List Value → Step Value
  | 0, _, _, _ => .error (.invalid "nested too deep")
  | fuel + 1, depth, acc, cs => do
    let (v, r) ← value limit fuel (depth + 1) cs
    let r ← skipArraySpace limit (depth + 1) r
    match r with
    | ']' :: r => .ok (.list (acc ++ [v]), r)
    | ',' :: r =>
      let r ← skipArraySpace limit (depth + 1) r
      call limit (depth + 1) .builtin
      match r with
      | ']' :: r => .ok (.list (acc ++ [v]), r)
      | _ => items limit fuel depth (acc ++ [v]) r
    | r => fail limit depth .plain r.isEmpty "unclosed array"

/-- The rest of an inline table after its opening brace, read by a step whose entry is at
`depth`.  It first makes its contents and its marks, each with a built-in that runs an
initialiser one level deeper; its entries are key/value pairs one level deeper. -/
def inlineTable (limit : Nat) : Nat → Nat → Step Value
  | 0, _, _ => .error (.invalid "nested too deep")
  | fuel + 1, depth, cs => do
    call limit depth .function
    call limit (depth + 1) .builtin
    call limit (depth + 2) .function
    match skipBlanks cs with
    | '}' :: r => .ok (.obj [], r)
    | cs => entries limit fuel depth [] [] cs

/-- The entries of an inline table from its next entry on, after the contents `t` with
the frozen keys `marks`, for the table step whose entry is at `depth`.  A key in the way
of a value is found one level deeper, where making that error is a built-in call. -/
def entries (limit : Nat) : Nat → Nat → Table → Marks → Step Value
  | 0, _, _, _, _ => .error (.invalid "nested too deep")
  | fuel + 1, depth, t, marks, cs => do
    let ((key, v), r) ← keyValue limit fuel (depth + 1) cs
    if marks.has key .frozen then
      fail limit depth .key r.isEmpty "cannot mutate an immutable namespace" else
    let t ← match updateNest false .ok key.dropLast t with
      | .error _ => do
        call limit (depth + 2) .builtin
        fail limit depth .plain r.isEmpty "cannot overwrite a value"
      | .ok _ =>
        match updateNest false (defineIn (key.getLastD "") v) key.dropLast t with
        | .ok t => .ok t
        | .error _ => fail limit depth .quoted r.isEmpty "duplicate key"
    match skipBlanks r with
    | '}' :: r => .ok (.obj t, r)
    | ',' :: r =>
      let marks := if isContainer v then marks ++ [⟨key, .frozen, true⟩] else marks
      entries limit fuel depth t marks (skipBlanks r)
    | r => fail limit depth .plain r.isEmpty "unclosed inline table"

/-- A key, an equals sign and a value, read by a step whose entry is at `depth`: the key
one level deeper, and the value one level deeper as well. -/
def keyValue (limit : Nat) : Nat → Nat → Step (List String × Value)
  | 0, _, _ => .error (.invalid "nested too deep")
  | fuel + 1, depth, cs => do
    call limit depth .function
    let (key, r) ← keyPath limit (depth + 1) (cs.length + 1) cs
    match r with
    | '=' :: r =>
      let (v, r) ← value limit fuel (depth + 1) (skipBlanks r)
      .ok ((key, v), r)
    | [] => do
      call limit (depth + 1) .comparison
      fail limit depth .plain true "expected an equals sign"
    | _ => fail limit depth .plain false "expected an equals sign"

end

/-- A document being read: its contents, its marks, and the marks that take effect at
the next header. -/
structure Doc where
  root : Table := []
  marks : Marks := []
  pending : Marks := []

/-- The proper nonempty prefixes of a key, each after `header`. -/
def innerTables (header key : List String) : List (List String) :=
  (List.range (key.length - 1)).map fun i => header ++ key.take (i + 1)

/-- A key/value statement under the table `header`. -/
def keyValueRule (limit : Nat) (doc : Doc) (header : List String) (fuel : Nat) :
    Step Doc := fun cs => do
  let ((key, v), r) ← keyValue limit fuel 2 cs
  let inner := innerTables header key
  if inner.any fun k => doc.marks.has k .explicit then .error (.invalid "cannot redefine a namespace") else
  let pending := doc.pending ++ inner.map fun k => ⟨k, .explicit, false⟩
  let parent := header ++ key.dropLast
  if doc.marks.has parent .frozen then .error (.invalid "cannot mutate an immutable namespace") else
  let root ← updateNest true (defineIn (key.getLastD "") v) parent doc.root
  let marks := if isContainer v then doc.marks ++ [⟨header ++ key, .frozen, true⟩] else doc.marks
  .ok ({ root, marks, pending }, r)

/-- A table header, after its opening bracket. -/
def tableRule (limit : Nat) (doc : Doc) : Step (Doc × List String) := fun cs => do
  let (key, r) ← keyPath limit 2 (cs.length + 1) (skipBlanks cs)
  if doc.marks.has key .explicit || doc.marks.has key .frozen then .error (.invalid "table defined twice") else
  let root ← updateNest true .ok key doc.root
  match r with
  | ']' :: r => .ok (({ doc with root, marks := doc.marks ++ [⟨key, .explicit, false⟩] }, key), r)
  | _ => .error (.invalid "expected a closing bracket")

/-- Append an empty table to the array of tables under `stem`. -/
def appendItem (stem : String) (t : Table) : Except Failure Table :=
  match t.lookup stem with
  | some (.list items) => .ok (putField t stem (.list (items ++ [.obj []])))
  | some _ => .error (.invalid "cannot overwrite a value")
  | none => .ok (putField t stem (.list [.obj []]))

/-- An array-of-tables header, after its opening brackets. -/
def arrayTableRule (limit : Nat) (doc : Doc) : Step (Doc × List String) := fun cs => do
  let (key, r) ← keyPath limit 2 (cs.length + 1) (skipBlanks cs)
  if doc.marks.has key .frozen then .error (.invalid "cannot mutate an immutable namespace") else
  let marks := (doc.marks.clearUnder key) ++ [⟨key, .explicit, false⟩]
  let root ← updateNest true (appendItem (key.getLastD "")) key.dropLast doc.root
  match r with
  | ']' :: ']' :: r => .ok (({ doc with root, marks }, key), r)
  | _ => .error (.invalid "expected closing brackets")

/-- The statements from here on, under the table `header`. -/
def statements (limit : Nat) : Nat → Doc → List String → List Char → Except Failure Doc
  | 0, _, _, _ => .error (.invalid "document too long")
  | fuel + 1, doc, header, cs =>
    match skipBlanks cs with
    | [] => .ok doc
    | '\n' :: r => statements limit fuel doc header r
    | c :: rest => do
      let (doc, header, r) ← (if isBareKeyChar c || c = '"' || c = '\'' then
          (keyValueRule limit doc header (4 * cs.length + 4) (c :: rest)).map fun (d, r) =>
            (d, header, skipBlanks r)
        else if c = '[' then
          let doc := { doc with marks := doc.marks ++ doc.pending, pending := [] }
          let rule := match rest with
            | '[' :: more => arrayTableRule limit doc more
            | _ => tableRule limit doc rest
          rule.map fun ((d, h), r) => (d, h, skipBlanks r)
        else if c = '#' then .ok (doc, header, c :: rest)
        else .error (.invalid "invalid statement") : Except Failure (Doc × List String × List Char))
      let r ← skipComment limit 1 r
      match r with
      | [] => .ok doc
      | '\n' :: r => statements limit fuel doc header r
      | _ => .error (.invalid "expected the end of the line")

/-- Read a TOML document into a table value, with `limit` entries of call stack above
the reader's own. -/
def parse (limit : Nat) (text : String) : Except Failure Value :=
  let cs := joinCrLf text.toList
  (statements limit (cs.length + 2) {} [] cs).map fun doc => .obj doc.root

end SqlAssist.Toml
