import SqlAssist.Statement.Bounds

/-!
# Text buffers

An editor buffer held as its lines: the text cut at every line feed, so a buffer of `n`
line feeds has `n + 1` lines and joining the lines with line feeds gives the text back.
Lines are addressed from 0; `textThrough i` is the text of lines `0‥i` and is empty for a
negative `i`.  `positionOf` turns an offset into the text, clamped into it, into a line
and a column, and `offsetOf` turns a line and a column back into an offset.
-/

namespace SqlAssist

/-- The text cut at every line feed. -/
def cutLines : List Char → List (List Char)
  | [] => [[]]
  | c :: cs =>
    match cutLines cs with
    | [] => [[c]]
    | l :: ls => if c = '\n' then [] :: l :: ls else (c :: l) :: ls

/-- An editor buffer, as its lines. -/
structure Buffer where
  lines : List String
  deriving DecidableEq, Repr

namespace Buffer

/-- The buffer of a text. -/
def ofText (text : String) : Buffer := ⟨(cutLines text.toList).map String.ofList⟩

/-- The buffer whose lines are `lines`. -/
def ofLines (lines : List String) : Buffer := ofText ("\n".intercalate lines)

/-- The text of a buffer. -/
def text (b : Buffer) : String := "\n".intercalate b.lines

/-- The number of lines of a buffer. -/
def lineCount (b : Buffer) : Nat := b.lines.length

/-- Line `i` of a buffer, if there is one. -/
def line? (b : Buffer) (i : Int) : Option String :=
  if 0 ≤ i then b.lines[i.toNat]? else none

/-- The text of lines `0‥i`; empty for a negative `i`. -/
def textThrough (b : Buffer) (i : Int) : String :=
  if i < 0 then "" else "\n".intercalate (b.lines.take (i.toNat + 1))

/-- The offset of column `character` of line `i`, whose text is `line`: the length of the
text through that line, less the line, plus the column cut to the line's length.  A
negative column counts back from the start of the line. -/
def offsetOf (b : Buffer) (i : Int) (line : String) (character : Int) : Int :=
  ((b.textThrough i).length : Int) - line.length + min character line.length

/-- The line and column of an offset into the text, clamped into it: the number of line
feeds before it, and the number of characters since the last of them. -/
def positionOf (b : Buffer) (offset : Int) : Nat × Nat :=
  let cs := b.text.toList
  let before := cs.take (Statement.clampOffset cs.length offset)
  (before.count '\n', (before.reverse.takeWhile (· ≠ '\n')).length)

end Buffer

end SqlAssist
