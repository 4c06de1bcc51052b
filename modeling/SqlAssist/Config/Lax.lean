import SqlAssist.Value
import SqlAssist.Config.Problem
import SqlAssist.Decimal.Nearest

/-!
# Lax reading of scalar fields

Configuration fields accept more than their exact type, the way a lax validator reads
them:

* a text field takes texts only;
* an integer field takes integers and truth values, floats with no fractional part
  inside the 64-bit range, and texts that read as integers once trimmed (`textAsInt`);
* a number field takes floats, integers within range, truth values, and texts that read
  as decimal numerals once trimmed (or, untrimmed, once underscores between the other
  characters are dropped);
* a truth-value field takes truth values, the integers 0 and 1, the floats 0 and 1, and
  the texts `0`, `1` and, in any case, `f`, `n`, `no`, `off`, `false`, `t`, `y`, `on`,
  `yes`, `true`.  Other integers of the 64-bit range cannot be interpreted; integers
  beyond it, and floats that are no whole numbers of that range, are no truth values.

Integer texts of fewer than 19 bytes may read as 64-bit integers with a sign of either
kind.  Other integer texts are read by a strict numeral reader that takes no plus sign, no
leading zero and no underscore, and no run of more than 4300 characters; leading zeros (and
underscores among them) are stripped before it reads, and when it fails, the text after
its sign is read again without a zero fraction and without underscores.  So `0-1` reads as
`-1` and `+1_0` as `10`, while `-_1` does not read.
-/

namespace SqlAssist.Config

/-- The white space that trimming removes: that of the standard property, which unlike
the classifier of `Text.isBlank` leaves out the separators `U+001C`–`U+001F`. -/
def isTrimmed (c : Char) : Bool := Text.isBlank c && !(0x1C ≤ c.toNat && c.toNat ≤ 0x1F)

/-- A text with white space trimmed from both ends. -/
def trim (cs : List Char) : List Char :=
  ((cs.dropWhile isTrimmed).reverse.dropWhile isTrimmed).reverse

/-- A 64-bit integer numeral: an optional sign and decimal digits. -/
def readSmallInt? (cs : List Char) : Option Int :=
  let (neg, ds) := Decimal.takeSign cs
  if !ds.isEmpty && ds.all Char.isDigit then
    let n : Int := Decimal.digitsValue ds
    some (if neg then -n else n)
  else none

/-- The byte length of a text in UTF-8. -/
def byteLength (cs : List Char) : Nat := (String.ofList cs).utf8ByteSize

/-- The most characters, sign included, that a strict numeral's run of digits may take. -/
def maxIntDigits : Nat := 4300

/-- What the strict reading of an integer numeral gives. -/
inductive Numeral
  /-- The numeral's value. -/
  | value (i : Int)
  /-- A run of digits longer than the limit. -/
  | tooLong
  /-- No numeral. -/
  | invalid
  deriving DecidableEq, Repr

/-- Read a strict integer numeral: an optional minus sign, then `0` alone or digits that do
not start with `0`, and nothing after.  A run of a sign and digits from `1` to `9` that is
longer than `maxIntDigits` is too long, whatever follows it. -/
def readStrictInt (cs : List Char) : Numeral :=
  let (neg, body) := match cs with
    | '-' :: t => (true, t)
    | _ => (false, cs)
  let run := body.takeWhile Char.isDigit
  match body with
  | ['0'] => .value 0
  | d :: _ =>
    if d = '0' || !d.isDigit then .invalid
    else if maxIntDigits < run.length + (if neg then 1 else 0) then .tooLong
    else if run.length = body.length then
      let n : Int := Decimal.digitsValue body
      .value (if neg then -n else n)
    else .invalid
  | [] => .invalid

/-- The rest of a text after a run of zeros and underscores, where `last` is the last
character of the run so far: the text from the first other character on, or the run's
last character when nothing else follows. -/
def afterZeros (last : Char) : List Char → List Char
  | [] => [last]
  | c :: rest => if c = '0' ∨ c = '_' then afterZeros c rest else c :: rest

/-- Strip the leading zeros (with the underscores among them) that a strict numeral does
not allow: a text that starts with `0` loses everything up to the first character that is
neither `0` nor `_`.  A text that starts with a sign or another digit is kept whole; one
that starts with anything else is no numeral. -/
def stripLeadingZeros : List Char → Option (List Char)
  | '0' :: rest => some (afterZeros '0' rest)
  | c :: rest => if c = '-' ∨ c = '+' ∨ ('1' ≤ c ∧ c ≤ '9') then some (c :: rest) else none
  | [] => none

/-- Read a text as a strict numeral once its leading zeros are stripped. -/
def readStripped (cs : List Char) : Numeral :=
  ((stripLeadingZeros cs).map readStrictInt).getD .invalid

/-- The part before the first point, when one or more zeros and nothing else follow it. -/
def dropZeroFraction? (cs : List Char) : Option (List Char) :=
  match cs.span (· ≠ '.') with
  | (whole, '.' :: rest) => if !rest.isEmpty && rest.all (· = '0') then some whole else none
  | _ => none

/-- Drop underscores, unless one leads, trails or doubles. -/
def dropUnderscores? (cs : List Char) : Option (List Char) :=
  let doubled := (cs.zip cs.tail).any fun (a, b) => a = '_' ∧ b = '_'
  if cs.head? = some '_' ∨ cs.getLast? = some '_' ∨ doubled then none
  else some (cs.filter (· ≠ '_'))

/-- A leading sign of a text, as whether it is a minus, and the rest after it. -/
def splitSign : List Char → Bool × List Char
  | '-' :: rest => (true, rest)
  | '+' :: rest => (false, rest)
  | cs => (false, cs)

/-- Read an integer field's text.  Once trimmed, a short text (under 19 bytes) that is a
64-bit numeral with an optional sign reads as such.  Otherwise the text is read strictly
after its leading zeros are stripped; a run of digits over the limit is too large.  When
that fails, the text is read once more: its sign is set aside, and what follows the sign
loses a zero fraction and its underscores (none of which may lead it) before it is read
strictly; any failure of that reading is a parsing failure. -/
def textAsInt (s : String) : Checked Int :=
  let cs := trim s.toList
  match (if byteLength cs < 19 then readSmallInt? cs else none) with
  | some i => .ok i
  | none =>
    match readStripped cs with
    | .value i => .ok i
    | .tooLong => fail .intParsingSize
    | .invalid =>
      let (neg, rest) := splitSign cs
      match (dropUnderscores? ((dropZeroFraction? rest).getD rest)).map readStripped with
      | some (.value i) => .ok (if neg then -i else i)
      | _ => fail .intParsing

/-- The integer of a whole float inside the 64-bit range. -/
def floatAsInt (x : Float) : Checked Int :=
  if x.isNaN || x.isInf then fail .finiteNumber
  else if x.floor != x then fail .intFromFloat
  else if -9223372036854775808.0 < x && x < 9223372036854775808.0 then
    .ok (if x < 0 then -((-x).toUInt64.toNat : Int) else (x.toUInt64.toNat : Int))
  else fail .intParsingSize

/-- Read an integer field. -/
def asInteger : Value → Checked Int
  | .int i => .ok i
  | .bool b => .ok (if b then 1 else 0)
  | .str s => textAsInt s
  | .float x => floatAsInt x
  | _ => fail .intType

/-- The double nearest an integer, if it is within the range of doubles. -/
def intAsFloat? (i : Int) : Option Float :=
  let x := Decimal.nearest (i < 0) i.natAbs 0
  if x.isInf then none else some x

/-- Read a number field's text. -/
def textAsFloat (s : String) : Checked Float :=
  match Decimal.readFloat? (trim s.toList) with
  | some x => .ok x
  | none =>
    match (dropUnderscores? s.toList).bind Decimal.readFloat? with
    | some x => .ok x
    | none => fail .floatParsing

/-- Read a number field. -/
def asNumber : Value → Checked Float
  | .float x => .ok x
  | .str s => textAsFloat s
  | .bool b => .ok (if b then 1.0 else 0.0)
  | .int i => match intAsFloat? i with
    | some x => .ok x
    | none => fail .floatType
  | _ => fail .floatType

/-- The truth value of a text, for the words that name one. -/
def textAsBool (s : String) : Checked Bool :=
  let w := String.ofList (s.toList.map Char.toLower)
  if s = "0" ∨ w ∈ ["f", "n", "no", "off", "false"] then .ok false
  else if s = "1" ∨ w ∈ ["t", "y", "on", "yes", "true"] then .ok true
  else fail .boolParsing

/-- The truth value of an integer: 0 and 1 only; an integer beyond the 64-bit range is
no truth value at all. -/
def intAsBool (i : Int) : Checked Bool :=
  if i = 0 then .ok false
  else if i = 1 then .ok true
  else if -9223372036854775808 ≤ i ∧ i ≤ 9223372036854775807 then fail .boolParsing
  else fail .boolType

/-- Read a truth-value field. -/
def asFlag : Value → Checked Bool
  | .bool b => .ok b
  | .str s => textAsBool s
  | .int i => intAsBool i
  | .float x => match floatAsInt x with
    | .ok i => intAsBool i
    | .error _ => fail .boolType
  | _ => fail .boolType

/-- Read a text field. -/
def asText : Value → Checked String
  | .str s => .ok s
  | _ => fail .stringType

/-- Read a text field that must be one of the allowed texts. -/
def asChoice (allowed : List String) : Value → Checked String
  | .str s => if s ∈ allowed then .ok s else fail (.literal allowed)
  | _ => fail (.literal allowed)

/-- Read an optional field: the absent value, or what `check` reads. -/
def optional {α : Type} (check : Value → Checked α) : Value → Checked (Option α)
  | .null => .ok none
  | v => (check v).map some

/-- Read an object field whose values are read by `check`, keeping the key order. -/
def dictOf {α : Type} (check : Value → Checked α) : Value → Checked (List (String × α))
  | .obj fs =>
    let checked := fs.map fun (k, v) => (k, under (.key k) (check v))
    let issues := checked.flatMap fun (_, c) => issuesOf c
    if issues.isEmpty then
      .ok (checked.filterMap fun (k, c) => match c with | .ok a => some (k, a) | .error _ => none)
    else .error issues
  | _ => fail .dictType

/-- Read a list field whose items are read by `check`. -/
def listOf {α : Type} (check : Value → Checked α) : Value → Checked (List α)
  | .list xs =>
    let checked := (List.range xs.length).zip xs |>.map fun (i, v) => under (.index i) (check v)
    let issues := checked.flatMap issuesOf
    if issues.isEmpty then
      .ok (checked.filterMap fun c => match c with | .ok a => some a | .error _ => none)
    else .error issues
  | _ => fail .listType

end SqlAssist.Config
