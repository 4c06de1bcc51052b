import SqlAssist.Toml.Lexical
import SqlAssist.Value

/-!
# TOML: numbers, truth values and date-times

* Integers: decimal with an optional sign and no leading zero, or `0x`, `0o`, `0b`
  with digits of that base; underscores may stand between digits.
* Floats: a decimal integer part with a fraction, an exponent or both (underscores
  between digits again), or `inf` and `nan` with an optional sign.
* Truth values: `true` and `false`.
* Date-times: a date `YYYY-MM-DD`, optionally followed by `T`, `t` or a blank and a time
  `HH:MM:SS` with an optional fraction, and then optionally `Z` or an offset `±HH:MM`;
  or a time alone.  A date must exist in the calendar (years from 1).

Each reader takes the longest text of its form at the start of the input, as a
left-to-right pattern match does; the statement reader then insists that what follows
ends the value.
-/

namespace SqlAssist.Toml

/-- Take `(_? d)*` greedily: digits, each possibly after one underscore. -/
def takeGrouped (isD : Char → Bool) : List Char → List Char × List Char
  | '_' :: d :: rest =>
    if isD d then
      let (more, r) := takeGrouped isD rest
      ('_' :: d :: more, r)
    else ([], '_' :: d :: rest)
  | d :: rest =>
    if isD d then
      let (more, r) := takeGrouped isD rest
      (d :: more, r)
    else ([], d :: rest)
  | [] => ([], [])

/-- A run `d (_? d)*` of digits of a class, if one starts here. -/
def grouped (isD : Char → Bool) : List Char → Option (List Char × List Char)
  | d :: rest =>
    if isD d then
      let (more, r) := takeGrouped isD rest
      some (d :: more, r)
    else none
  | [] => none

/-- The digits of a grouped run, underscores dropped. -/
def plainDigits (cs : List Char) : List Char := cs.filter (· ≠ '_')

/-- A prefixed integer `0x…`, `0o…` or `0b…`. -/
def prefixedInt : List Char → Option (Int × List Char)
  | '0' :: p :: rest =>
    let base := if p = 'x' then 16 else if p = 'o' then 8 else if p = 'b' then 2 else 0
    let isD : Char → Bool := fun c =>
      if base = 16 then isHexDigit c else if base = 8 then '0' ≤ c && c ≤ '7'
      else '0' ≤ c && c ≤ '1'
    if base = 0 then none
    else (grouped isD rest).map fun (ds, r) =>
      ((plainDigits ds).foldl (fun a d => a * base + hexValue d) 0, r)
  | _ => none

/-- The fraction part `.d(_?d)*`, if one follows. -/
def fractionPart (cs : List Char) : List Char × List Char :=
  match cs with
  | '.' :: rest =>
    match grouped Char.isDigit rest with
    | some (ds, r) => ('.' :: ds, r)
    | none => ([], cs)
  | _ => ([], cs)

/-- The exponent part `e±d(_?d)*`, if one follows. -/
def exponentPart (cs : List Char) : List Char × List Char :=
  match cs with
  | e :: rest =>
    if e = 'e' || e = 'E' then
      let (sign, body) := match rest with
        | '+' :: r => (['+'], r)
        | '-' :: r => (['-'], r)
        | r => ([], r)
      match grouped Char.isDigit body with
      | some (ds, r) => (e :: sign ++ ds, r)
      | none => ([], cs)
    else ([], cs)
  | [] => ([], [])

/-- A decimal integer or float. -/
def decimalNumber (cs : List Char) : Option (Value × List Char) :=
  let (sign, body) := match cs with
    | '+' :: r => (['+'], r)
    | '-' :: r => (['-'], r)
    | r => ([], r)
  let whole : Option (List Char × List Char) := match body with
    | '0' :: r => some (['0'], r)
    | _ => match body with
      | d :: _ => if d.isDigit then grouped Char.isDigit body else none
      | [] => none
  whole.map fun (ds, r) =>
    let (frac, r) := fractionPart r
    let (ex, r) := exponentPart r
    if frac.isEmpty && ex.isEmpty then
      let n : Int := Decimal.digitsValue (plainDigits ds)
      (.int (if sign = ['-'] then -n else n), r)
    else
      let text := plainDigits (sign ++ ds ++ frac ++ ex)
      (.float ((Decimal.readFloat? text).getD 0.0), r)

/-- A number, prefixed integers first. -/
def number (cs : List Char) : Option (Value × List Char) :=
  match prefixedInt cs with
  | some (i, r) => some (.int i, r)
  | none => decimalNumber cs

/-- `inf` or `nan`, with an optional sign. -/
def specialFloat : List Char → Option (Value × List Char)
  | 'i' :: 'n' :: 'f' :: r => some (.float (1.0 / 0.0), r)
  | 'n' :: 'a' :: 'n' :: r => some (.float (0.0 / 0.0), r)
  | '+' :: 'i' :: 'n' :: 'f' :: r => some (.float (1.0 / 0.0), r)
  | '-' :: 'i' :: 'n' :: 'f' :: r => some (.float (-(1.0 / 0.0)), r)
  | '+' :: 'n' :: 'a' :: 'n' :: r => some (.float (0.0 / 0.0), r)
  | '-' :: 'n' :: 'a' :: 'n' :: r => some (.float (0.0 / 0.0), r)
  | _ => none

/-- Two digits whose value lies in `[lo, hi]`. -/
def twoDigits (lo hi : Nat) : List Char → Option (Nat × List Char)
  | a :: b :: r =>
    if a.isDigit && b.isDigit then
      let v := (a.toNat - 48) * 10 + (b.toNat - 48)
      if lo ≤ v && v ≤ hi then some (v, r) else none
    else none
  | _ => none

/-- Expect one character. -/
def expectChar (c : Char) : List Char → Option (List Char)
  | d :: r => if c = d then some r else none
  | [] => none

/-- A time `HH:MM:SS` with an optional fraction: the rest after it. -/
def time (cs : List Char) : Option (List Char) := do
  let (_, r) ← twoDigits 0 23 cs
  let r ← expectChar ':' r
  let (_, r) ← twoDigits 0 59 r
  let r ← expectChar ':' r
  let (_, r) ← twoDigits 0 59 r
  match r with
  | '.' :: d :: more => if d.isDigit then some (more.dropWhile Char.isDigit) else some r
  | _ => some r

/-- A time offset `Z` or `±HH:MM`: the rest after it, if one follows. -/
def offset (cs : List Char) : Option (List Char) :=
  match cs with
  | z :: r => if z = 'Z' || z = 'z' then some r
    else if z = '+' || z = '-' then do
      let (_, r) ← twoDigits 0 23 r
      let r ← expectChar ':' r
      let (_, r) ← twoDigits 0 59 r
      some r
    else none
  | [] => none

/-- Whether a year is a leap year. -/
def isLeap (y : Nat) : Bool := y % 4 = 0 && (y % 100 ≠ 0 || y % 400 = 0)

/-- The number of days of a month. -/
def monthDays (y m : Nat) : Nat :=
  if m = 2 then (if isLeap y then 29 else 28)
  else if m = 4 || m = 6 || m = 9 || m = 11 then 30 else 31

/-- A date, optionally with a time and an offset, at the start of the input: its text,
whether the date is in the calendar (years from 1), and the rest; `none` when no date
starts here. -/
def dateTime (cs : List Char) : Option (List Char × Bool × List Char) := do
  let y ← (if (cs.take 4).length = 4 && (cs.take 4).all Char.isDigit then
    some (Decimal.digitsValue (cs.take 4)) else none)
  let r ← expectChar '-' (cs.drop 4)
  let (m, r) ← twoDigits 1 12 r
  let r ← expectChar '-' r
  let (d, r) ← twoDigits 1 31 r
  let r := match r with
    | sep :: more =>
      if sep = 'T' || sep = 't' || sep = ' ' then
        match time more with
        | some after => (offset after).getD after
        | none => r
      else r
    | [] => r
  some (cs.take (cs.length - r.length), y ≠ 0 && d ≤ monthDays y m, r)

/-- A time alone. -/
def localTime (cs : List Char) : Option (Value × List Char) :=
  (time cs).map fun r => (.dateTime (String.ofList (cs.take (cs.length - r.length))), r)

end SqlAssist.Toml
