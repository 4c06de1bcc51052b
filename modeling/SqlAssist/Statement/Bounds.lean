import SqlAssist.Statement.Separator

/-!
# The statement under the cursor

The separators of a buffer cut it into statements.  The statement under a cursor offset
runs from just after the last separator before the offset to the first separator at or
after it, or to the ends of the buffer.  The offset is first clamped into the buffer, so
every integer has a statement; an offset that sits on a separator belongs to the
statement before it.
-/

namespace SqlAssist.Statement

/-- An offset clamped into `[0, n]`. -/
def clampOffset (n : Nat) (offset : Int) : Nat := min offset.toNat n

/-- Walk the separators in order: `start` is the beginning of the statement so far, and
the first separator at or after `o` ends it. -/
def boundsFrom (len o start : Nat) : List Nat → Nat × Nat
  | [] => (start, len)
  | p :: ps => if p < o then boundsFrom len o (p + 1) ps else (start, p)

/-- The start and end of the statement of `cs` under the cursor offset `offset`, cut at the
separators that `tk` reads. -/
def bounds (cs : List Char) (offset : Int) (tk : Tokenizer := lexemes) : Nat × Nat :=
  boundsFrom cs.length (clampOffset cs.length offset) 0 (separators cs tk)

/-- The text of the statement of `cs` under the cursor offset `offset`. -/
def statementAt (cs : List Char) (offset : Int) (tk : Tokenizer := lexemes) : List Char :=
  let (start, stop) := bounds cs offset tk
  (cs.take stop).drop start

end SqlAssist.Statement
