import SqlAssist.Statement.Lexeme

/-!
# Statement separators

A buffer holds several SQL statements divided by semicolons.  A semicolon divides two
statements only where a tokenizer reads a semicolon token: outside every string, quoted
identifier and comment.  The tokenizer is a parameter (`Tokenizer`); the statements rest
only on what `Tokenizer.Sound` asks of it, that its semicolon tokens start at semicolons
of the text, in increasing order.  The tokenizer of this library, `lexemes`, reads the
buffer lexeme by lexeme (`SqlAssist.Statement.Lexeme`).

When the tokenizer rejects the buffer (a string, identifier or comment left open), every
semicolon counts as a separator, as it does for a buffer read by plain splitting.
-/

namespace SqlAssist.Statement

/-- The positions of the separating semicolons of `cs`, whose first character stands at
position `pos`, where `afterParameter` tells whether the token before is a parameter
sign; `none` when the text is unreadable. -/
def scan (pos : Nat) (afterParameter : Bool) (cs : List Char) : Option (List Nat) :=
  match Lexeme.read afterParameter cs with
  | .done => some []
  | .unclosed => none
  | .semicolon rest _ => (scan (pos + 1) false rest).map (pos :: ·)
  | .token parameter rest _ => scan (pos + (cs.length - rest.length)) parameter rest
  | .skipped rest _ => scan (pos + (cs.length - rest.length)) afterParameter rest
termination_by cs.length
decreasing_by all_goals assumption

/-- The position of every semicolon of `cs`. -/
def semicolons (cs : List Char) : List Nat :=
  ((List.range cs.length).zip cs).filterMap fun (i, c) => if c = ';' then some i else none

/-- A tokenizer as the separators use it: the start of every semicolon token of a text, in
token order, or `none` when it rejects the text. -/
structure Tokenizer where
  semicolonStarts : List Char → Option (List Nat)

/-- What the separators assume of a tokenizer: the semicolon tokens it reads start at
semicolons of the text, at strictly increasing positions. -/
def Tokenizer.Sound (tk : Tokenizer) : Prop :=
  ∀ cs S, tk.semicolonStarts cs = some S → S.Pairwise (· < ·) ∧ ∀ p ∈ S, cs[p]? = some ';'

/-- The tokenizer of this library: the semicolons that start a lexeme. -/
def lexemes : Tokenizer := ⟨scan 0 false⟩

/-- The separators of a buffer: none without a semicolon; the starts of the semicolon
tokens when the tokenizer reads the buffer; every semicolon when it rejects it. -/
def separators (cs : List Char) (tk : Tokenizer := lexemes) : List Nat :=
  if ';' ∈ cs then (tk.semicolonStarts cs).getD (semicolons cs) else []

/-- Whether the separators of `cs` fall back to every semicolon: the buffer has one and
the tokenizer rejects it. -/
def rejected (cs : List Char) (tk : Tokenizer := lexemes) : Bool :=
  ';' ∈ cs && (tk.semicolonStarts cs).isNone

end SqlAssist.Statement
