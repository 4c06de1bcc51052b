import SqlAssist.Alias.Binding

/-!
# What the cursor expects

From the text of the line before the cursor, decide what kind of name is being typed and
which word is typed so far.

* A qualified name `q.p` at the end (plain words, `p` possibly empty) names a column of
  the table `q`, or, right after a table keyword (`FROM shop.`), a table of the
  database `q`.  When the surrounding statement binds `q` as an alias, the column belongs
  to the aliased table instead.
* `USE` followed by blanks and a partial word expects a database.
* A table keyword (`FROM`, `JOIN`, `INTO`, `UPDATE` and the join phrases) at the end, or
  followed by blanks and a partial word, expects a table.
* A column keyword (`SELECT`, `WHERE`, `ORDER BY`, …) followed by blanks and a partial
  word, or a `SELECT` list that ends in a comma and a partial word, expects a column.
* Anything else expects a keyword.

Keywords are read case-blind and must start the text or follow a blank; the partial word
after them is a run of loose word characters.  "At the end" always admits one line feed
after it.  The word typed so far is the longest run of plain word characters that ends
the text (before a final line feed).
-/

namespace SqlAssist.Cursor

/-- The kind of name expected under the cursor. -/
inductive Expect
  | database
  | table
  | column
  | keyword
  deriving DecidableEq, Repr

/-- What the cursor expects, and the word typed so far. -/
structure Context where
  expect : Expect
  /-- The word typed so far. -/
  word : String := ""
  database : Option String := none
  table : Option String := none
  /-- The alias through which the table was found, when it was. -/
  viaAlias : Option String := none
  deriving DecidableEq, Repr

/-- The keyword phrases after which a table name is expected. -/
def tableKeywords : List String :=
  ["FROM", "JOIN", "INTO", "UPDATE", "LEFT JOIN", "RIGHT JOIN", "INNER JOIN", "OUTER JOIN",
   "FULL JOIN", "CROSS JOIN"]

/-- The keyword phrases after which a column name is expected. -/
def columnKeywords : List String :=
  ["SELECT", "WHERE", "ORDER BY", "GROUP BY", "HAVING", "SET", "ON", "AND", "OR"]

/-- Whether the reversed text `r` (last character first) is the keyword phrase `p` preceded
by the start of the text or a blank, with the phrase itself at the end when `bare`, or
followed by blanks and a partial word of loose word characters when `¬ bare`. -/
def endsWithPhrase (p : String) (bare : Bool) (r : List Char) : Bool :=
  let atEnd := fun r =>
    match Word.dropPhrase (Word.reversedPhrase p) r with
    | some before => Word.opensAfterBlank before
    | none => false
  if bare then atEnd r
  else
    match Word.dropBlanks (r.dropWhile Word.isLoose) with
    | some r' => atEnd r'
    | none => false

/-- Whether `text` ends with the phrase `p` followed by an optional blank run and
partial word (`optional`), or by a required one (`¬ optional`). -/
def endsWithKeyword (p : String) (optional : Bool) (text : List Char) : Bool :=
  (Word.endings text).any fun t =>
    (optional && endsWithPhrase p true t.reverse) || endsWithPhrase p false t.reverse

/-- Whether a `SELECT`, at a word boundary and followed by a blank, opens somewhere in
`cs`, the character before it being `prev`. -/
def opensSelect (prev : Option Char) : List Char → Bool
  | [] => false
  | c :: rest =>
    (Word.boundaryAfter prev &&
      match Word.dropWord "SELECT".toList (c :: rest) with
      | some (b :: _) => Text.isBlank b
      | _ => false) || opensSelect (some c) rest

/-- Whether the text ends inside a `SELECT` list: a `SELECT` and a blank, then anything,
then a comma, blanks and a partial word. -/
def endsInSelectList (text : List Char) : Bool :=
  (Word.endings text).any fun t =>
    match (t.reverse.dropWhile Word.isLoose).dropWhile Text.isBlank with
    | ',' :: before => opensSelect none before.reverse
    | _ => false

/-- Whether the text ends where a table name is expected. -/
def afterTableKeyword (text : List Char) : Bool :=
  tableKeywords.any fun p => endsWithKeyword p true text

/-- Whether the text ends where a column name is expected. -/
def afterColumnKeyword (text : List Char) : Bool :=
  columnKeywords.any (fun p => endsWithKeyword p false text) || endsInSelectList text

/-- Whether the text ends where a database name is expected. -/
def afterUse (text : List Char) : Bool := endsWithKeyword "USE" false text

/-- The word typed so far: the longest run of plain word characters ending the text,
before one final line feed. -/
def partialWord (text : List Char) : List Char :=
  Word.trailingPlain (if text.getLast? = some '\n' then text.dropLast else text)

/-- A qualified name ending the text (before one final line feed): the qualifier, the
word after the dot, and the position where the qualifier starts. -/
def qualifiedTail (text : List Char) : Option (String × String × Nat) :=
  let t := if text.getLast? = some '\n' then text.dropLast else text
  let word := Word.trailingPlain t
  match (t.take (t.length - word.length)).reverse with
  | '.' :: before =>
    let q := (before.takeWhile Word.isPlain).reverse
    if q = [] then none
    else some (String.ofList q, String.ofList word, t.length - word.length - 1 - q.length)
  | _ => none

/-- What the cursor at column `cursor` of `line` expects; `query` is the surrounding
statement, in which a qualifier is first tried as an alias. -/
def parse (line : String) (cursor : Int) (query : Option String) : Context :=
  let before := line.toList.take cursor.toNat
  let typed := String.ofList (partialWord before)
  match qualifiedTail before with
  | some (q, p, start) =>
    let viaAlias := match query with
      | some text => if text.isEmpty then none else Alias.resolve? q text
      | none => none
    match viaAlias with
    | some (t, d) => ⟨.column, p, d, some t, some q⟩
    | none =>
      let pre := before.take start
      if (pre.getLast?.map Text.isBlank).getD false && afterTableKeyword pre.dropLast then
        ⟨.table, p, some q, none, none⟩
      else ⟨.column, p, none, some q, none⟩
  | none =>
    if afterUse before then ⟨.database, typed, none, none, none⟩
    else if afterTableKeyword before then ⟨.table, typed, none, none, none⟩
    else if afterColumnKeyword before then ⟨.column, typed, none, none, none⟩
    else ⟨.keyword, typed, none, none, none⟩

end SqlAssist.Cursor
