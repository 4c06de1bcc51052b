import SqlAssist.Text.Blank
import SqlAssist.Text.Digit

/-!
# Lexemes of a SQL buffer

To tell a semicolon that ends a statement from one inside a string or a comment, the
buffer is read lexeme by lexeme from the left, the way a SQL tokenizer reads it.  A
semicolon divides statements only where a lexeme starts with it.

## Where a lexeme starts and ends

At the start of a lexeme the first character decides:

* A blank character is skipped on its own.
* A digit (of any script, `Text.isDigit`) opens a number.  The number takes every
  following digit, one point, one exponent mark `e` or `E`, and one sign `-` or `+`
  anywhere after the exponent mark, provided a digit follows the sign.  So in `1e-5` the
  sign belongs to the number, while in `1e--` the number is `1e` and a line comment
  follows.  Right after a parameter sign `@`, a point ends the number.
* `"` opens a quoted identifier.
* Otherwise the longest *spelling* that the text starts with decides (`spellings`):
  - `'`, `N'` and `n'` open a string;
  - `--` opens a line comment, which runs up to the next line feed or carriage return;
  - `/*` opens a block comment that ends at `*/` and nests; `/*+` opens an optimiser
    hint, a block comment that does not nest; `{#` opens a template comment that ends at
    `#}` and nests;
  - every other spelling is an operator and is taken whole.  The operators that end
    with `-` (`{%-`, `{{-` and `-|-`) take the first `-` of a following `--`, so no
    comment opens there.
* With no spelling, a character of `isSingle` is a lexeme by itself, and any other
  character opens a bare word that runs up to the next blank or single character.

Inside a string or a quoted identifier the quote written twice stands for itself, and
the first quote that is not doubled closes it.  A backslash escapes nothing.  In a
block comment, each `*/` lowers the depth and an inner opening raises it; the character
right after an opening delimiter is checked only for a closing one, never for another
opening, so `/*/*/` is one whole comment.

A string, identifier or block comment left open at the end of the buffer, or a doubled
quote that is the last thing in the buffer, makes the buffer unreadable.
-/

namespace SqlAssist.Statement

/-- The characters that stand alone as one-character lexemes and end a bare word. -/
def singles : List Char :=
  ['(', ')', '[', ']', '{', '}', '&', '^', ':', ',', '.', '-', '=', '>', '<', '%', '!', '|',
   '+', ';', '/', '\\', '*', '~', '?', '@', '#', '\'', '`', '"']

/-- Whether a character is a one-character lexeme of its own. -/
def isSingle (c : Char) : Bool := singles.contains c

/-- What a spelling opens. -/
inductive Opening
  /-- An operator, taken whole. -/
  | operator
  /-- A comment up to the end of the line. -/
  | lineComment
  /-- A block comment ending at `stop`; an inner opening nests when `nests`. -/
  | blockComment (stop : List Char) (nests : Bool)
  /-- A string between single quotes. -/
  | string
  deriving DecidableEq, Repr

/-- The spellings that the reader recognises at the start of a lexeme: the multi-character
operators, the comment openers and the string openers. -/
def spellings : List (List Char × Opening) :=
  [(['{', '%'], .operator), (['{', '%', '+'], .operator), (['{', '%', '-'], .operator),
   (['%', '}'], .operator), (['+', '%', '}'], .operator), (['-', '%', '}'], .operator),
   (['{', '{', '+'], .operator), (['{', '{', '-'], .operator),
   (['+', '}', '}'], .operator), (['-', '}', '}'], .operator),
   (['=', '='], .operator), ([':', ':'], .operator), (['|', '|'], .operator),
   (['|', '>'], .operator), (['>', '='], .operator), (['<', '='], .operator),
   (['<', '>'], .operator), (['!', '='], .operator), ([':', '='], .operator),
   (['<', '=', '>'], .operator), (['-', '>'], .operator), (['-', '>', '>'], .operator),
   (['=', '>'], .operator), (['#', '>'], .operator), (['#', '>', '>'], .operator),
   (['<', '-', '>'], .operator), (['&', '&'], .operator), (['?', '?'], .operator),
   (['~', '~', '~'], .operator), (['~', '~'], .operator), (['~', '~', '*'], .operator),
   (['~', '*'], .operator), (['-', '|', '-'], .operator),
   (['-', '-'], .lineComment),
   (['/', '*'], .blockComment ['*', '/'] true),
   (['/', '*', '+'], .blockComment ['*', '/'] false),
   (['{', '#'], .blockComment ['#', '}'] true),
   (['\''], .string), (['N', '\''], .string), (['n', '\''], .string)]

/-- The longest spelling that `cs` starts with, and what it opens. -/
def longestSpelling (cs : List Char) : Option (List Char × Opening) :=
  (spellings.filter fun (s, _) => s.isPrefixOf cs).foldl
    (fun best (s, o) => match best with
      | some (b, _) => if b.length < s.length then some (s, o) else best
      | none => some (s, o)) none

/-- The rest of the text after a quoted run closed by `q`, reading from just after the
opening quote; `none` when the run is never closed. -/
def skipQuoted (q : Char) : List Char → Option (List Char)
  | [] => none
  | c :: rest =>
    if c = q then
      match rest with
      | d :: rest' =>
        if d = q then
          -- A doubled quote stands for itself, but must not end the buffer.
          if rest' = [] then none else skipQuoted q rest'
        else some rest
      | [] => some []
    else skipQuoted q rest

/-- The rest of the text after a block comment that ends at `stop`, reading from just
after an opening delimiter, at nesting `depth`.  With `nests`, an occurrence of `open`
right after an advance raises the depth.  `none` when the comment is never closed. -/
def skipBlock (open_ stop : List Char) (nests : Bool) (depth : Nat) :
    List Char → Option (List Char)
  | c₁ :: c₂ :: rest =>
    let closes := [c₁, c₂] = stop
    if closes ∧ depth ≤ 1 then some rest
    else
      let depth' := if closes then depth - 1 else depth
      if nests ∧ (c₂ :: rest).take 2 = open_ ∧ 2 ≤ (c₂ :: rest).length then
        skipBlock open_ stop nests (depth' + 1) (rest.drop 1)
      else skipBlock open_ stop nests depth' (c₂ :: rest)
  | _ => none
termination_by cs => cs.length
decreasing_by
  all_goals simp_wf
  all_goals omega

/-- The rest of a line comment: everything up to the next line break. -/
def skipLine (cs : List Char) : List Char :=
  cs.dropWhile (fun c => c ≠ '\n' ∧ c ≠ '\r')

/-- How many characters after its first digit a number takes: digits, one point (unless
the number follows a parameter sign, where a point ends it), one exponent mark, and one
sign anywhere after the exponent mark when a digit follows the sign.  `scientific` counts the
exponent mark and its sign seen so far. -/
def numberTail (afterParameter decimal : Bool) (scientific : Nat) : List Char → Nat
  | [] => 0
  | c :: rest =>
    if Text.isDigit c then numberTail afterParameter decimal scientific rest + 1
    else if c = '.' ∧ !decimal then
      if afterParameter then 0 else numberTail afterParameter true scientific rest + 1
    else if (c = '-' ∨ c = '+') ∧ scientific = 1 then
      if rest.head?.any Text.isDigit then numberTail afterParameter decimal 2 rest + 1 else 0
    else if (c = 'e' ∨ c = 'E') ∧ scientific = 0 then
      numberTail afterParameter decimal 1 rest + 1
    else 0

/-- How many characters after its first one a bare word takes: all up to the next blank
or single character. -/
def wordTail (cs : List Char) : Nat :=
  (cs.takeWhile fun c => !Text.isBlank c && !isSingle c).length

/-- What stands at the head of a text, read as one lexeme. -/
inductive Lexeme (cs : List Char) where
  /-- A semicolon, and the rest after it. -/
  | semicolon (rest : List Char) (shorter : rest.length < cs.length)
  /-- A token other than a semicolon; `parameter` when it is the parameter sign `@`. -/
  | token (parameter : Bool) (rest : List Char) (shorter : rest.length < cs.length)
  /-- A blank or a comment, which is no token. -/
  | skipped (rest : List Char) (shorter : rest.length < cs.length)
  /-- A string, identifier or comment that opens and never closes. -/
  | unclosed
  /-- The text is empty. -/
  | done

/-- A token whose rest is known only at run time; unclosed unless it is shorter. -/
def Lexeme.tokenAfter (cs : List Char) : Option (List Char) → Lexeme cs
  | none => .unclosed
  | some r => if h : r.length < cs.length then .token false r h else .unclosed

/-- A comment whose rest is known only at run time; unclosed unless it is shorter. -/
def Lexeme.skippedAfter (cs : List Char) : Option (List Char) → Lexeme cs
  | none => .unclosed
  | some r => if h : r.length < cs.length then .skipped r h else .unclosed

/-- Dropping some characters of the tail leaves less than the whole text. -/
theorem drop_tail_shorter (c : Char) (rest : List Char) (n : Nat) :
    (rest.drop n).length < (c :: rest).length := by
  simp only [List.length_drop, List.length_cons]
  omega

/-- Read the lexeme at the head of a text; `afterParameter` when the token before it is
the parameter sign. -/
def Lexeme.read (afterParameter : Bool) : (cs : List Char) → Lexeme cs
  | [] => .done
  | c :: rest =>
    if c = ';' then .semicolon rest (by simp)
    else if Text.isBlank c then .skipped rest (by simp)
    else if Text.isDigit c then
      .token false (rest.drop (numberTail afterParameter false 0 rest)) (drop_tail_shorter ..)
    else if c = '"' then Lexeme.tokenAfter _ (skipQuoted '"' rest)
    else
      match longestSpelling (c :: rest) with
      | some (s, .operator) => .token false (rest.drop (s.length - 1)) (drop_tail_shorter ..)
      | some (s, .lineComment) => Lexeme.skippedAfter _ (some (skipLine ((c :: rest).drop s.length)))
      | some (s, .blockComment stop nests) =>
        Lexeme.skippedAfter _ (skipBlock s stop nests 1 ((c :: rest).drop s.length))
      | some (s, .string) => Lexeme.tokenAfter _ (skipQuoted '\'' ((c :: rest).drop s.length))
      | none =>
        if isSingle c then .token (c = '@') rest (by simp)
        else .token false (rest.drop (wordTail rest)) (drop_tail_shorter ..)

end SqlAssist.Statement
