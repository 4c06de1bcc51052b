import SqlAssist.Text.CaseTable

/-!
# Case conversion

Full Unicode lowercase and uppercase of a text, as the Unicode standard defines them for
text with no language tailoring:

* every character maps to one or more characters (`ß` uppercases to `SS`, `ﬁ` to `FI`,
  `İ` lowercases to `i` followed by a combining dot above);
* the capital sigma `Σ` lowercases to the final form `ς` when it ends a word: a cased
  character precedes it, looking back through case-ignorable characters, and no cased
  character follows it, looking ahead through case-ignorable characters.  Everywhere else
  it lowercases to `σ`.

Lowercasing is therefore not a map of characters: the image of a text is not the
concatenation of the images of its halves when a sigma sits at the seam.
-/

namespace SqlAssist.Text

/-- Binary search for the run containing the code point `n`, and its image under that run. -/
def searchRuns (t : Array CaseRun) (n : Nat) (lo hi : Nat) : Option Nat :=
  if lo < hi then
    let mid := (lo + hi) / 2
    match t[mid]? with
    | none => none
    | some r =>
      if n < r.lo then searchRuns t n lo mid
      else if r.hi < n then searchRuns t n (mid + 1) hi
      else if (n - r.lo) % r.step = 0 then some (n + r.delta).toNat
      else none
  else none
termination_by hi - lo

/-- The image of a character under a single-character mapping table and a table of
longer images; characters in neither table map to themselves. -/
def mapChar (runs : Array CaseRun) (multi : List (Nat × List Nat)) (c : Char) : List Char :=
  match multi.lookup c.toNat with
  | some img => img.map Char.ofNat
  | none =>
    match searchRuns runs c.toNat 0 runs.size with
    | some m => [Char.ofNat m]
    | none => [c]

/-- The uppercase of a single character. -/
def upperChar (c : Char) : List Char := mapChar upperRuns upperMulti c

/-- The lowercase of a single character, with `Σ` taken in its medial form `σ`. -/
def lowerChar (c : Char) : List Char := mapChar lowerRuns lowerMulti c

/-- Whether a character is case-ignorable. -/
def isCaseIgnorable (c : Char) : Bool := inRanges ignorableRanges c.toNat

/-- Whether a character is cased and not case-ignorable. -/
def isCasedLetter (c : Char) : Bool := inRanges casedRanges c.toNat

/-- Whether the first character that is not case-ignorable, if any, is cased. -/
def startsCased (s : List Char) : Bool :=
  match s.dropWhile isCaseIgnorable with
  | c :: _ => isCasedLetter c
  | [] => false

/-- A capital sigma between `before` (reversed: nearest character first) and `after`
ends a word: something cased precedes it and nothing cased follows it, both looking
through case-ignorable characters. -/
def endsWord (before after : List Char) : Bool :=
  startsCased before && !startsCased after

/-- Lowercase of `s`, where `before` is the text already lowercased, nearest first. -/
def lowerFrom (before : List Char) : List Char → List Char
  | [] => []
  | c :: rest =>
    (if c = 'Σ' then [if endsWord before rest then 'ς' else 'σ'] else lowerChar c) ++
      lowerFrom (c :: before) rest

/-- The full lowercase of a text. -/
def lower (s : List Char) : List Char := lowerFrom [] s

/-- The full uppercase of a text. -/
def upper (s : List Char) : List Char := s.flatMap upperChar

/-- The full lowercase of a string. -/
def lowerString (s : String) : String := String.ofList (lower s.toList)

/-- The full uppercase of a string. -/
def upperString (s : String) : String := String.ofList (upper s.toList)

end SqlAssist.Text
