import SqlAssist.Text.Alnum
import SqlAssist.Text.Blank

/-!
# Words and keywords in SQL text

The editor features read SQL text through a few character classes.

* A *plain word character* is an ASCII letter, an ASCII digit or `_`.  Qualified names
  and the word being typed are made of these.
* A *loose word character* is a plain word character or one of the four characters
  that case-blind matching treats as ASCII letters: `İ` (U+0130) and `ı` (U+0131),
  which pair with `i`, the long s `ſ` (U+017F), which pairs with `s`, and the Kelvin sign
  (U+212A), which pairs with `k`.  Keyword contexts and table references are read with
  these.
* A *letter or digit* (`SqlAssist.Text.isAlnum`) or `_` is what word boundaries look at:
  a keyword that follows such a character does not start a word.

A keyword is spelled case-blind: each of its ASCII letters may be written in either case,
`I` also as `İ` or `ı`, `S` also as `ſ`, `K` also as the Kelvin sign.  The words of a
keyword phrase such as `LEFT JOIN` are separated by one or more blanks.
-/

namespace SqlAssist.Word

/-- An ASCII letter, an ASCII digit or `_`. -/
def isPlain (c : Char) : Bool := c.isAlphanum || c = '_'

/-- A plain word character or one of `İ`, `ı`, `ſ` and the Kelvin sign. -/
def isLoose (c : Char) : Bool :=
  isPlain c || c = 'İ' || c = 'ı' || c = 'ſ' || c = 'K'

/-- A character that makes a word boundary impossible right after it. -/
def isBoundaryWord (c : Char) : Bool := Text.isAlnum c || c = '_'

/-- Whether `c` spells the uppercase ASCII letter `k` in case-blind matching. -/
def spells (k c : Char) : Bool :=
  c.toUpper = k ∧ c.toNat < 128 ∨
    (k = 'I' ∧ (c = 'İ' ∨ c = 'ı')) ∨ (k = 'S' ∧ c = 'ſ') ∨ (k = 'K' ∧ c = 'K')

/-- The rest of `cs` after the word `w` (uppercase ASCII) spelled case-blind at its head. -/
def dropWord : List Char → List Char → Option (List Char)
  | [], cs => some cs
  | k :: w, c :: cs => if spells k c then dropWord w cs else none
  | _ :: _, [] => none

/-- The rest of `cs` after a run of at least one blank at its head, all of the run taken. -/
def dropBlanks (cs : List Char) : Option (List Char) :=
  match cs with
  | c :: _ => if Text.isBlank c then some (cs.dropWhile Text.isBlank) else none
  | [] => none

/-- The rest of `cs` after the keyword phrase `ws` at its head: its words spelled
case-blind, separated by runs of blanks. -/
def dropPhrase : List (List Char) → List Char → Option (List Char)
  | [], cs => some cs
  | [w], cs => dropWord w cs
  | w :: ws, cs =>
    match dropWord w cs with
    | some r => match dropBlanks r with
      | some r' => dropPhrase ws r'
      | none => none
    | none => none

/-- The words of a keyword phrase written with single spaces. -/
def phraseWords (p : String) : List (List Char) :=
  p.toList.splitOn ' '

/-- The phrase read backwards: the reversed words in reverse order, so that matching it
at the head of a reversed text matches it at the end of the text. -/
def reversedPhrase (p : String) : List (List Char) :=
  (phraseWords p).reverse.map List.reverse

/-- Whether a keyword may start right after `before`, given reversed (nearest character
first): at the start of the text, or after a blank, which the keyword pattern takes with it. -/
def opensAfterBlank (before : List Char) : Bool :=
  match before with
  | [] => true
  | c :: _ => Text.isBlank c

/-- Whether a word boundary stands right after the character `prev` (none at the start). -/
def boundaryAfter (prev : Option Char) : Bool :=
  match prev with
  | none => true
  | some c => !isBoundaryWord c

/-- The texts whose end counts as the end of `cs`: `cs` itself and, when `cs` ends with a
line feed, `cs` without it. -/
def endings (cs : List Char) : List (List Char) :=
  if cs.getLast? = some '\n' then [cs, cs.dropLast] else [cs]

/-- The longest suffix of `cs` made of plain word characters. -/
def trailingPlain (cs : List Char) : List Char :=
  (cs.reverse.takeWhile isPlain).reverse

end SqlAssist.Word
