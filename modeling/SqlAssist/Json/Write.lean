import SqlAssist.Value.Display

/-!
# JSON text

Writing a value as JSON.  Texts are put between double quotes with the backslash, the
double quote and the control characters escaped: `\n`, `\r`, `\t`, `\b`, `\f` by name
and the others as `\u00hh`.  In ASCII-only output every character outside the printable
ASCII range is also escaped as `\uhhhh`, a character beyond the basic plane as its two
surrogate halves.  Floats are written with their shortest digits
(`SqlAssist.Decimal.floatText`), the values that are not finite as `Infinity`,
`-Infinity` and `NaN`.  Dates and times are written as texts.

The layout is either one line, items separated by `, ` and keys by `: `, or indented: each
item on a line of its own, nested `indent` spaces deeper than its container, with
`,` ending all but the last item.  Empty lists and objects are `[]` and `{}` in both.
-/

namespace SqlAssist.Json

/-- How a document is laid out. -/
structure Style where
  /-- Escape every character outside printable ASCII. -/
  asciiOnly : Bool
  /-- Spaces per nesting level, or everything on one line. -/
  indent : Option Nat

/-- One line, ASCII only: the form of the answers exchanged with a test harness. -/
def Style.compact : Style := ⟨true, none⟩

/-- Two spaces per level, characters as they are: the form printed for a person. -/
def Style.pretty : Style := ⟨false, some 2⟩

/-- The `\uhhhh` escape of a code unit. -/
def unitEscape (u : Nat) : List Char := '\\' :: 'u' :: hexDigits 4 u

/-- The escaped form of one character of a text. -/
def escapeChar (asciiOnly : Bool) (c : Char) : List Char :=
  if c = '"' then ['\\', '"']
  else if c = '\\' then ['\\', '\\']
  else if c = '\n' then ['\\', 'n']
  else if c = '\r' then ['\\', 'r']
  else if c = '\t' then ['\\', 't']
  else if c = '\x08' then ['\\', 'b']
  else if c = '\x0c' then ['\\', 'f']
  else if c.toNat < 0x20 then unitEscape c.toNat
  else if asciiOnly ∧ 0x7F ≤ c.toNat then
    if c.toNat < 0x10000 then unitEscape c.toNat
    else
      let v := c.toNat - 0x10000
      unitEscape (0xD800 + v / 0x400) ++ unitEscape (0xDC00 + v % 0x400)
  else [c]

/-- A text as a JSON string. -/
def quote (asciiOnly : Bool) (s : String) : String :=
  String.ofList ('"' :: s.toList.flatMap (escapeChar asciiOnly) ++ ['"'])

/-- The JSON text of a float. -/
def floatText (x : Float) : String :=
  if x.isNaN then "NaN"
  else if x.isInf then (if x < 0 then "-Infinity" else "Infinity")
  else Decimal.floatText x

/-- The break before an item at nesting `depth`, or nothing on one line. -/
def lineBreak (st : Style) (depth : Nat) : String :=
  match st.indent with
  | some n => "\n" ++ String.ofList (List.replicate (n * depth) ' ')
  | none => ""

/-- What stands between two items. -/
def itemSep (st : Style) : String := if st.indent.isSome then "," else ", "

mutual
/-- The JSON text of a value at nesting `depth`. -/
def write (st : Style) (depth : Nat) : Value → String
  | .null => "null"
  | .bool b => if b then "true" else "false"
  | .int i => toString i
  | .float x => floatText x
  | .str s => quote st.asciiOnly s
  | .dateTime t => quote st.asciiOnly t
  | .list [] => "[]"
  | .list (x :: xs) =>
    "[" ++ lineBreak st (depth + 1) ++ writeItems st (depth + 1) (x :: xs) ++
      lineBreak st depth ++ "]"
  | .obj [] => "\x7b\x7d"
  | .obj (f :: fs) =>
    "\x7b" ++ lineBreak st (depth + 1) ++ writeFields st (depth + 1) (f :: fs) ++
      lineBreak st depth ++ "\x7d"

/-- List items at nesting `depth`. -/
def writeItems (st : Style) (depth : Nat) : List Value → String
  | [] => ""
  | [x] => write st depth x
  | x :: xs => write st depth x ++ itemSep st ++ lineBreak st depth ++ writeItems st depth xs

/-- Object fields at nesting `depth`. -/
def writeFields (st : Style) (depth : Nat) : List (String × Value) → String
  | [] => ""
  | [(k, v)] => quote st.asciiOnly k ++ ": " ++ write st depth v
  | (k, v) :: fs =>
    quote st.asciiOnly k ++ ": " ++ write st depth v ++ itemSep st ++ lineBreak st depth ++
      writeFields st depth fs
end

/-- The JSON text of a document in a style. -/
def render (st : Style) (v : Value) : String := write st 0 v

end SqlAssist.Json
