import SqlAssist.Value
import SqlAssist.Decimal.Text
import SqlAssist.Text.Shown

/-!
# How a value is shown in a message

Messages interpolate values in two forms.

* The *display* form, used when a value stands in a sentence (`Method not found: 5`):
  a text is shown as it is; the absent value is `None`; truth values are `True` and
  `False`; numbers are written as usual; lists and objects are shown in their quoted
  form.
* The *quoted* form, used for the items of lists and objects and for the key of a
  missing entry: a text is put between quotes.  The quote is `'` unless the text holds
  a `'` and no `"`.  Inside, the backslash and the chosen quote are escaped, tab, line
  feed and carriage return are written `\t`, `\n`, `\r`, other control characters and
  every character that is not shown as it is (`SqlAssist.Text.isShown`) are written as
  `\xhh`, `\uhhhh` or `\Uhhhhhhhh` by their code point.  Lists are written
  `[a, b]` and objects `{'k': v}` with quoted items.
-/

namespace SqlAssist

/-- Lowercase hexadecimal digits of `n`, padded with zeros to `width`. -/
def hexDigits (width n : Nat) : List Char :=
  let ds := Nat.toDigits 16 n
  List.replicate (width - ds.length) '0' ++ ds

/-- The escaped form of one character inside a quoted text with quote `q`. -/
def quoteChar (q c : Char) : List Char :=
  if c = q ∨ c = '\\' then ['\\', c]
  else if c = '\t' then ['\\', 't']
  else if c = '\n' then ['\\', 'n']
  else if c = '\r' then ['\\', 'r']
  else if c.toNat < 0x20 ∨ c.toNat = 0x7F then '\\' :: 'x' :: hexDigits 2 c.toNat
  else if c.toNat < 0x7F ∨ Text.isShown c then [c]
  else if c.toNat ≤ 0xFF then '\\' :: 'x' :: hexDigits 2 c.toNat
  else if c.toNat ≤ 0xFFFF then '\\' :: 'u' :: hexDigits 4 c.toNat
  else '\\' :: 'U' :: hexDigits 8 c.toNat

/-- The quoted form of a text. -/
def quoteText (s : String) : String :=
  let q := if s.contains '\'' ∧ ¬ s.contains '"' then '"' else '\''
  String.ofList (q :: s.toList.flatMap (quoteChar q) ++ [q])

namespace Value

mutual
/-- The quoted form of a value. -/
def quoted : Value → String
  | .str s => quoteText s
  | .list xs => "[" ++ quotedItems xs ++ "]"
  | .obj fs => "\x7b" ++ quotedFields fs ++ "\x7d"
  | v => v.scalarText

/-- The quoted forms of list items, separated by commas. -/
def quotedItems : List Value → String
  | [] => ""
  | [x] => x.quoted
  | x :: xs => x.quoted ++ ", " ++ quotedItems xs

/-- The quoted forms of object fields, separated by commas. -/
def quotedFields : List (String × Value) → String
  | [] => ""
  | [(k, v)] => quoteText k ++ ": " ++ v.quoted
  | (k, v) :: fs => quoteText k ++ ": " ++ v.quoted ++ ", " ++ quotedFields fs

/-- The text of a value that is neither a text, a list nor an object. -/
def scalarText : Value → String
  | .null => "None"
  | .bool b => if b then "True" else "False"
  | .int i => toString i
  | .float x => Decimal.floatText x
  | .dateTime t => t
  | .str s => s
  | .list _ => ""
  | .obj _ => ""
end

/-- The display form of a value. -/
def display : Value → String
  | .str s => s
  | v => v.quoted

end Value

end SqlAssist
