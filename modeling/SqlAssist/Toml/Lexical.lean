import SqlAssist.Decimal.Nearest

/-!
# TOML: characters, white space, comments and strings

A TOML reader is a set of step readers: each takes the rest of the document and either
fails or returns what it read with the rest after it.  This module holds the lexical
ones.

* White space inside a line is blanks and tabs; arrays also skip line feeds and
  comments.  A comment runs from `#` to the end of the line and may hold no control
  character other than a tab.
* A basic string `"…"` holds escapes `\b \t \n \f \r \" \\`, `\uXXXX` and `\UXXXXXXXX`
  naming a Unicode scalar value, and no control character other than a tab.  A
  multi-line basic string `"""…"""` may also hold line feeds, drops a line feed right
  after its opening, and a backslash at the end of a line swallows the white space and
  line feeds that follow.
* A literal string `'…'` holds its text as written, and the multi-line `'''…'''` may
  hold line feeds.
* A multi-line string may end in one or two more quotes than its delimiter; they belong
  to the text.

The document's `\r\n` pairs are read as line feeds before reading starts, so a lone
carriage return is a control character wherever it stands.

## The call stack

The reader is recursive, and its call stack holds a bounded number of entries.  Each
reader below names the depth of its own entry and announces every call it makes (`call`):
a call of one of its own functions, of a built-in routine, or a comparison that the
stack counts.  The first call that lands past the limit stops the whole reading with
`Failure.tooDeep`, naming the kind of that call.  Since a call one level deeper can only
be made from an entry that fit, the call that overflows always lands exactly one past
the limit, and only the order of the calls at each depth matters.
-/

namespace SqlAssist.Toml

/-- The kinds of entry on the reader's call stack. -/
inductive Frame
  /-- One of the reader's own functions. -/
  | function
  /-- A built-in routine. -/
  | builtin
  /-- A comparison of two values. -/
  | comparison
  /-- The conversion of a value to its text, or to its quoted form when `quoted`. -/
  | conversion (quoted : Bool)
  deriving DecidableEq, Repr

/-- Why a document does not read. -/
inductive Failure
  /-- The text breaks the grammar. -/
  | invalid (reason : String)
  /-- Values nest deeper than the reader's call stack allows; `frame` is the call that
  found the stack full. -/
  | tooDeep (frame : Frame)
  deriving DecidableEq, Repr

/-- A call whose entry lands at `depth` on a stack of `limit` entries: past the limit
the stack overflows. -/
def call (limit depth : Nat) (frame : Frame) : Except Failure Unit :=
  if limit < depth then .error (.tooDeep frame) else .ok ()

/-- How a failure's message shows what it is about. -/
inductive Shown
  /-- The message is fixed text. -/
  | plain
  /-- The message quotes a character or a text. -/
  | quoted
  /-- The message shows a key as the tuple of its parts. -/
  | key
  deriving DecidableEq, Repr

/-- Fail from a step whose entry is at `depth`.  The message is built first: a quoted
item is converted one level deeper, and a key is formatted by a built-in one level
deeper, which converts the key to text a level below that and quotes its parts below
that.  Then the error function runs one level deeper and places the error in the text
two levels deeper, counting lines with built-ins three levels deeper unless the error
stands at the end of the input; last, a built-in two levels deeper makes the error. -/
def fail (limit depth : Nat) (shown : Shown) (atEnd : Bool) (reason : String) :
    Except Failure α := do
  match shown with
  | .plain => pure ()
  | .quoted => call limit (depth + 1) (.conversion true)
  | .key =>
    call limit (depth + 1) .builtin
    call limit (depth + 2) (.conversion false)
    call limit (depth + 3) (.conversion true)
  call limit (depth + 1) .function
  call limit (depth + 2) .function
  if !atEnd then call limit (depth + 3) .builtin
  call limit (depth + 2) .builtin
  .error (.invalid reason)

/-- A step reader: what it read and the rest of the input, or why it failed. -/
abbrev Step (α : Type) := List Char → Except Failure (α × List Char)

/-- Blanks and tabs. -/
def isBlank (c : Char) : Bool := c = ' ' || c = '\t'

/-- The control characters: `U+0000`–`U+001F` and `U+007F`. -/
def isControl (c : Char) : Bool := c.toNat < 32 || c.toNat = 127

/-- Characters a single-line string or a comment may not hold. -/
def illegalInLine (c : Char) : Bool := isControl c && c ≠ '\t'

/-- Characters a multi-line string may not hold. -/
def illegalInBlock (c : Char) : Bool := isControl c && c ≠ '\t' && c ≠ '\n'

/-- The characters of a bare key. -/
def isBareKeyChar (c : Char) : Bool :=
  (c.toNat < 128 && (c.isAlphanum)) || c = '-' || c = '_'

/-- Hexadecimal digits. -/
def isHexDigit (c : Char) : Bool :=
  c.isDigit || ('a' ≤ c && c ≤ 'f') || ('A' ≤ c && c ≤ 'F')

/-- The value of a hexadecimal digit. -/
def hexValue (c : Char) : Nat :=
  if c.isDigit then c.toNat - 48
  else if 'a' ≤ c && c ≤ 'f' then c.toNat - 87
  else c.toNat - 55

/-- Replace every `\r\n` pair by a line feed. -/
def joinCrLf : List Char → List Char
  | '\r' :: '\n' :: rest => '\n' :: joinCrLf rest
  | c :: rest => c :: joinCrLf rest
  | [] => []

/-- Skip blanks and tabs. -/
def skipBlanks (cs : List Char) : List Char := cs.dropWhile isBlank

/-- Split the input at the first occurrence of `stop`: the text before it and the rest
from it on; `none` when it does not occur. -/
def splitAt? (stop : List Char) : List Char → Option (List Char × List Char)
  | [] => if stop.isEmpty then some ([], []) else none
  | c :: rest =>
    if stop.isPrefixOf (c :: rest) then some ([], c :: rest)
    else (splitAt? stop rest).map fun (before, after) => (c :: before, after)

/-- Skip to the first `stop`, failing on an illegal character on the way, and at the end
of the input when `needStop`.  The skip's entry is at `depth`; it searches for `stop` and
then checks the text before it, with one built-in call each. -/
def skipUntil (limit depth : Nat) (stop : List Char) (illegal : Char → Bool)
    (needStop : Bool) : Step (List Char) := fun cs => do
  call limit depth .function
  call limit (depth + 1) .builtin
  let (before, after) := (splitAt? stop cs).getD (cs, [])
  if needStop && (splitAt? stop cs).isNone then fail limit depth .quoted true "unterminated"
  else
    call limit (depth + 1) .builtin
    if before.any illegal then fail limit depth .quoted false "invalid character"
    else .ok (before, after)

/-- Skip a comment, if one starts here; the rest starts at the end of its line.  The
entry of this step is at `depth`; at the end of the input, looking for the comment sign
is a comparison the stack counts. -/
def skipComment (limit depth : Nat) (cs : List Char) : Except Failure (List Char) := do
  call limit depth .function
  match cs with
  | '#' :: rest => (skipUntil limit (depth + 1) ['\n'] illegalInLine false rest).map (·.2)
  | [] => do call limit (depth + 1) .comparison; .ok []
  | _ => .ok cs

/-- Skip white space, line feeds and comments from a step whose entry is at `depth`. -/
def skipSpaceAndComments (limit depth : Nat) : Nat → List Char → Except Failure (List Char)
  | 0, cs => .ok cs
  | fuel + 1, cs =>
    let cs' := cs.dropWhile fun c => isBlank c || c = '\n'
    match cs' with
    | '#' :: _ => (skipComment limit (depth + 1) cs').bind (skipSpaceAndComments limit depth fuel)
    | _ => skipComment limit (depth + 1) cs'

/-- Skip white space, line feeds and comments, as between the items of an array; the
entry of this step is at `depth`, and it skips blanks and comments one level deeper. -/
def skipArraySpace (limit depth : Nat) (cs : List Char) : Except Failure (List Char) := do
  call limit depth .function
  call limit (depth + 1) .function
  skipSpaceAndComments limit depth (cs.length + 1) cs

/-- A Unicode scalar value from `n` hexadecimal digits, read by a step whose entry is at
`depth`: it checks the digits with a built-in, the value with a function that compares,
and makes the character with a built-in. -/
def hexChar (limit depth n : Nat) : Step Char := fun cs => do
  call limit depth .function
  let ds := cs.take n
  if ds.length ≠ n then fail limit depth .plain cs.isEmpty "invalid hex value" else
  call limit (depth + 1) .builtin
  if !ds.all isHexDigit then fail limit depth .plain false "invalid hex value" else
  let v := ds.foldl (fun a d => a * 16 + hexValue d) 0
  call limit (depth + 1) .function
  call limit (depth + 2) .comparison
  if v.isValidChar then do
    call limit (depth + 1) .builtin
    .ok (Char.ofNat v, cs.drop n)
  else fail limit depth .plain (cs.drop n).isEmpty "not a scalar value"

/-- An escape after a backslash in a basic string, read by a step whose entry is at
`depth`; in a multi-line string a backslash before white space that runs to the end of
the line swallows it and the line feeds and white space after. -/
def escape (block : Bool) (limit depth : Nat) : Step (List Char) := fun cs => do
  call limit depth .function
  match cs with
  | c :: rest =>
    if block && (c = ' ' || c = '\t' || c = '\n') then
      if c ≠ '\n' then call limit (depth + 1) .function
      let afterBlanks := if c = '\n' then c :: rest else skipBlanks (c :: rest)
      match afterBlanks with
      | [] => .ok ([], [])
      | '\n' :: more =>
        call limit (depth + 1) .function
        .ok ([], more.dropWhile fun d => isBlank d || d = '\n')
      | _ => fail limit depth .plain false "unescaped backslash"
    else if c = 'u' then (hexChar limit (depth + 1) 4 rest).map fun (ch, r) => ([ch], r)
    else if c = 'U' then (hexChar limit (depth + 1) 8 rest).map fun (ch, r) => ([ch], r)
    else match c with
      | 'b' => .ok (['\x08'], rest)
      | 't' => .ok (['\t'], rest)
      | 'n' => .ok (['\n'], rest)
      | 'f' => .ok (['\x0c'], rest)
      | 'r' => .ok (['\r'], rest)
      | '"' => .ok (['"'], rest)
      | '\\' => .ok (['\\'], rest)
      | _ => fail limit depth .plain rest.isEmpty "unescaped backslash"
  | [] => fail limit depth .plain true "unescaped backslash"

/-- The body of a basic string after its opening quote(s), to its closing quote(s), read
by a step whose entry is at `depth`.  In a multi-line string every quote is checked for
the closing three with a built-in, and an escape goes through one more function than in
a single-line string. -/
def basicBody (block : Bool) (limit depth : Nat) : Nat → Step (List Char)
  | 0, _ => .error (.invalid "string too long")
  | _, [] => fail limit depth .plain true "unterminated string"
  | fuel + 1, c :: rest =>
    if c = '"' then
      if !block then .ok ([], rest)
      else do
        call limit (depth + 1) .builtin
        match rest with
        | '"' :: '"' :: more => .ok ([], more)
        | _ => (basicBody block limit depth fuel rest).map fun (s, r) => ('"' :: s, r)
    else if c = '\\' then do
      if block then call limit (depth + 1) .function
      let (piece, r) ← escape block limit (if block then depth + 2 else depth + 1) rest
      (basicBody block limit depth fuel r).map fun (s, r') => (piece ++ s, r')
    else if (if block then illegalInBlock c else illegalInLine c) then
      fail limit depth .quoted false "illegal character"
    else (basicBody block limit depth fuel rest).map fun (s, r) => (c :: s, r)

/-- Up to two more delimiter characters after a multi-line string belong to it; each is
looked for with a built-in call at `depth`, the second only after the first. -/
def extraDelimiters (limit depth : Nat) (d : Char) (s : List Char) (cs : List Char) :
    Except Failure (List Char × List Char) := do
  call limit depth .builtin
  match cs with
  | a :: rest =>
    if a = d then do
      call limit depth .builtin
      match rest with
      | b :: more => if b = d then .ok (s ++ [d, d], more) else .ok (s ++ [d], rest)
      | [] => .ok (s ++ [d], [])
    else .ok (s, cs)
  | [] => .ok (s, cs)

/-- A single-line basic string, starting at its opening quote, read by a step whose entry
is at `depth` and which hands the body to a step one level deeper. -/
def basicString (limit depth : Nat) : Step String := fun cs => do
  call limit depth .function
  call limit (depth + 1) .function
  match cs with
  | '"' :: rest =>
    (basicBody false limit (depth + 1) (rest.length + 1) rest).map fun (s, r) =>
      (String.ofList s, r)
  | _ => .error (.invalid "not a string")

/-- A single-line literal string, starting at its opening quote, read by a step whose
entry is at `depth`. -/
def literalString (limit depth : Nat) : Step String := fun cs => do
  call limit depth .function
  match cs with
  | '\'' :: rest =>
    (skipUntil limit (depth + 1) ['\''] illegalInLine true rest).map fun (s, r) =>
      (String.ofList s, r.drop 1)
  | _ => .error (.invalid "not a string")

/-- A string of any of the four kinds, starting at its opening quote, as a value whose
entry is at `depth`: one built-in call tells a multi-line string from a single-line one,
and the multi-line reader drops a line feed after the opening with another. -/
def string (limit depth : Nat) : Step String := fun cs => do
  call limit (depth + 1) .builtin
  match cs with
  | '"' :: '"' :: '"' :: rest =>
    call limit (depth + 1) .function
    call limit (depth + 2) .builtin
    let rest := match rest with | '\n' :: r => r | r => r
    call limit (depth + 2) .function
    let (s, r) ← basicBody true limit (depth + 2) (rest.length + 1) rest
    let (s, r) ← extraDelimiters limit (depth + 2) '"' s r
    .ok (String.ofList s, r)
  | '\'' :: '\'' :: '\'' :: rest =>
    call limit (depth + 1) .function
    call limit (depth + 2) .builtin
    let rest := match rest with | '\n' :: r => r | r => r
    let (s, r) ← skipUntil limit (depth + 2) ['\'', '\'', '\''] illegalInBlock true rest
    let (s, r) ← extraDelimiters limit (depth + 2) '\'' s (r.drop 3)
    .ok (String.ofList s, r)
  | '\'' :: _ => literalString limit (depth + 1) cs
  | _ => basicString limit (depth + 1) cs

end SqlAssist.Toml
