import SqlAssist.Word
import SqlAssist.Text.Case

/-!
# Table references and alias bindings

Table references are found without parsing: a reference is a run of loose word
characters and dots after the keyword `FROM` or `JOIN` (case-blind, at a word boundary,
after at least one blank).  A binding gives the reference an alias, either through `AS`
(`FROM shop.users AS u`) or by juxtaposition (`JOIN orders o`).  A juxtaposed alias that
is a clause keyword (`FROM users WHERE`) is no alias; see `isClauseKeyword`.

Each of the four binding shapes (`FROM … AS …`, `FROM … …`, `JOIN … AS …`,
`JOIN … …`) is searched on its own, left to right, a new search starting where the last
match ended.  A match is consumed even when its alias is refused, so a clause keyword
that is itself `FROM` or `JOIN` is never read again by that shape
(`FROM a FROM b c` binds nothing: the first match `FROM a FROM` is refused).

Bindings are collected shape by shape and keyed by lowercase alias and table: a key
already seen is dropped, so the first shape to find a key keeps it.  The survivors are
then ordered by where their match starts.
-/

namespace SqlAssist.Alias

/-- A table reference with an alias, all lowercase. -/
structure Binding where
  table : String
  aliasName : String
  database : Option String
  deriving DecidableEq, Repr

/-- The clause keywords that a juxtaposed alias may not be. -/
def clauseKeywords : List String :=
  ["WHERE", "AND", "OR", "ON", "USING", "GROUP", "ORDER", "HAVING", "LIMIT", "OFFSET",
   "UNION", "INTERSECT", "EXCEPT", "SELECT", "FROM", "JOIN", "LEFT", "RIGHT", "INNER",
   "OUTER", "CROSS", "FULL", "AS", "IN", "EXISTS", "BETWEEN", "LIKE", "IS", "NULL", "NOT",
   "SET", "VALUES", "INTO", "UPDATE", "INSERT", "DELETE", "CREATE", "ALTER", "DROP",
   "TABLE", "DATABASE", "INDEX", "VIEW"]

/-- Whether a word is a clause keyword: its full uppercase is one of `clauseKeywords`. -/
def isClauseKeyword (w : String) : Bool := clauseKeywords.contains (Text.upperString w)

/-- Split `db.table` into the table and the database; anything else is a bare table.  Both
parts must be nonempty plain words; one line feed may end the text. -/
def splitReference (r : String) : String × Option String :=
  let cs := if r.toList.getLast? = some '\n' then r.toList.dropLast else r.toList
  match cs.splitOn '.' with
  | [q, t] =>
    if q ≠ [] ∧ t ≠ [] ∧ q.all Word.isPlain ∧ t.all Word.isPlain then
      (String.ofList t, some (String.ofList q))
    else (r, none)
  | _ => (r, none)

/-- Whether a character may stand in a table reference. -/
def isReferenceChar (c : Char) : Bool := Word.isLoose c || c = '.'

/-- A run of at least one character of class `p` at the head of `cs`, all of it taken,
with what follows. -/
def takeRun (p : Char → Bool) (cs : List Char) : Option (List Char × List Char) :=
  match cs.span p with
  | ([], _) => none
  | r => some r

/-- The two keywords that introduce a table reference. -/
inductive Opener
  | fromKw
  | joinKw

/-- The spelling of an opener. -/
def Opener.word : Opener → List Char
  | .fromKw => "FROM".toList
  | .joinKw => "JOIN".toList

/-- A match of a binding shape: the reference, the alias, and the text after it. -/
structure Found where
  reference : String
  aliasName : String
  rest : List Char

/-- Match a binding shape at the head of `cs`, which follows the character `prev`:
opener, blanks, reference, blanks, then `AS` and blanks when `viaAs`, then the alias. -/
def matchBinding (o : Opener) (viaAs : Bool) (prev : Option Char) (cs : List Char) :
    Option Found := do
  guard (Word.boundaryAfter prev)
  let r ← Word.dropWord o.word cs
  let r ← Word.dropBlanks r
  let (reference, r) ← takeRun isReferenceChar r
  let r ← Word.dropBlanks r
  let r ← if viaAs then Word.dropWord "AS".toList r >>= Word.dropBlanks else some r
  let (aliasName, r) ← takeRun Word.isLoose r
  pure ⟨String.ofList reference, String.ofList aliasName, r⟩

/-- Match a bare reference at the head of `cs`: opener, blanks, reference. -/
def matchReference (o : Opener) (prev : Option Char) (cs : List Char) :
    Option (String × List Char) := do
  guard (Word.boundaryAfter prev)
  let r ← Word.dropWord o.word cs
  let r ← Word.dropBlanks r
  let (reference, r) ← takeRun isReferenceChar r
  pure (String.ofList reference, r)

/-- The non-overlapping matches of a pattern over `cs`, whose first character stands at
position `pos` after `prev`, left to right, each with the position where it starts.  The
pattern gives the match at the head of a text and the text after it. -/
def searchAll {α : Type} (m : Option Char → List Char → Option (α × List Char))
    (pos : Nat) (prev : Option Char) : List Char → List (Nat × α)
  | [] => []
  | c :: tl =>
    match m prev (c :: tl) with
    | some (a, rest) =>
      if _h : rest.length < (c :: tl).length then
        let used := (c :: tl).length - rest.length
        (pos, a) :: searchAll m (pos + used) (((c :: tl).take used).getLast?) rest
      else []
    | none => searchAll m (pos + 1) (some c) tl
termination_by cs => cs.length
decreasing_by all_goals simp_all

/-- The matches of one binding shape, as reference and alias with their positions. -/
def shapeMatches (o : Opener) (viaAs : Bool) (cs : List Char) : List (Nat × String × String) :=
  searchAll (fun prev t => (matchBinding o viaAs prev t).map fun f => ((f.reference, f.aliasName), f.rest))
    0 none cs

/-- The binding shapes in the order they are searched, each with whether its alias is
juxtaposed (and so may not be a clause keyword). -/
def shapes : List (Opener × Bool) :=
  [(.fromKw, true), (.fromKw, false), (.joinKw, true), (.joinKw, false)]

/-- The binding a match makes. -/
def Binding.ofMatch (reference aliasName : String) : Binding :=
  let (t, d) := splitReference reference
  ⟨Text.lowerString t, Text.lowerString aliasName, d.map Text.lowerString⟩

/-- Collect bindings shape by shape, dropping refused aliases and keys already seen. -/
def collect (cs : List Char) : List (Opener × Bool) → List (String × String) →
    List (Nat × Binding) → List (Nat × Binding)
  | [], _, acc => acc
  | (o, viaAs) :: rest, seen, acc =>
    let step := fun (st : List (String × String) × List (Nat × Binding))
        (m : Nat × String × String) =>
      let (pos, reference, aliasName) := m
      if !viaAs && isClauseKeyword aliasName then st
      else
        let b := Binding.ofMatch reference aliasName
        if st.1.contains (b.aliasName, b.table) then st
        else ((b.aliasName, b.table) :: st.1, st.2 ++ [(pos, b)])
    let (seen', acc') := (shapeMatches o viaAs cs).foldl step (seen, acc)
    collect cs rest seen' acc'

/-- The alias bindings of a text, in text order, each lowercase key once. -/
def bindings (text : String) : List Binding :=
  ((collect text.toList shapes [] []).mergeSort (fun a b => a.1 ≤ b.1)).map Prod.snd

/-- The table and database of the first binding whose alias is the lowercase of
`name`. -/
def find? (name : String) (bs : List Binding) : Option (String × Option String) :=
  let wanted := Text.lowerString name
  (bs.find? (·.aliasName = wanted)).map fun b => (b.table, b.database)

/-- The table and database bound to the alias `name` in `text`. -/
def resolve? (name text : String) : Option (String × Option String) := find? name (bindings text)

/-- The last dotted part of a reference, dots at either end ignored. -/
def bareName (r : String) : String :=
  let trimmed := ((r.toList.dropWhile (· = '.')).reverse.dropWhile (· = '.')).reverse
  String.ofList ((trimmed.splitOn '.').getLast?.getD [])

/-- The lowercase bare table names after every `FROM`, then after every `JOIN`, in text
order, repeats kept. -/
def tableNames (text : String) : List String :=
  let names := fun o => (searchAll (matchReference o) 0 none text.toList).map (·.2)
  ((names .fromKw ++ names .joinKw).map bareName).filter (· ≠ "") |>.map Text.lowerString

end SqlAssist.Alias
