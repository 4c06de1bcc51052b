import SqlAssist.Text.Blank

/-!
# The double nearest to a decimal

Reading a decimal numeral gives the double nearest to its exact value, ties going to the
even significand, and infinity beyond the largest double.  The value `m · 10^t` is kept
as an exact fraction; its binary exponent `e` is the one that puts `value / 2^e` in
`[2^52, 2^53)`, but never below the least exponent `-1074` of the subnormals.  The
significand is then `value / 2^e` rounded, and a carry to `2^53` moves to the next
exponent.  No step rounds twice, so the result is the correctly rounded double.

The numerals read here are those of a decimal literal: an optional sign, digits with at
most one point and at least one digit, an optional exponent `e` or `E` with an optional
sign and at least one digit; or, in any case of letters, `inf`, `infinity` and `nan`
with an optional sign.
-/

namespace SqlAssist.Decimal

/-- The exact value `m · 10^t` as a numerator and a denominator. -/
def fraction (m : Nat) (t : Int) : Nat × Nat := (m * Nat.pow 10 t.toNat, Nat.pow 10 (-t).toNat)

/-- `⌊num / (den · 2^e)⌋` and the remainder over that divisor, for an integer `e`. -/
def scaledDiv (num den : Nat) (e : Int) : Nat × Nat × Nat :=
  let n := num * Nat.pow 2 (-e).toNat
  let d := den * Nat.pow 2 e.toNat
  (n / d, n % d, d)

/-- Move the exponent until the quotient lies in `[2^52, 2^53)`; the first guess is off by
at most one either way, so two steps suffice. -/
def settleExponent (num den : Nat) : Nat → Int → Int
  | 0, e => e
  | fuel + 1, e =>
    let q := (scaledDiv num den e).1
    if q < Nat.pow 2 52 then settleExponent num den fuel (e - 1)
    else if Nat.pow 2 53 ≤ q then settleExponent num den fuel (e + 1)
    else e

/-- The bits of the double nearest to `num / den`, which is positive. -/
def nearestBits (num den : Nat) : UInt64 :=
  let guess : Int := (num.log2 : Int) - den.log2 - 52
  let e := max (settleExponent num den 3 guess) (-1074)
  let (q, r, d) := scaledDiv num den e
  let q := if 2 * r > d ∨ (2 * r = d ∧ q % 2 = 1) then q + 1 else q
  let (q, e) := if q = Nat.pow 2 53 then (Nat.pow 2 52, e + 1) else (q, e)
  if 971 < e then 0x7FF0000000000000
  else if q < Nat.pow 2 52 then q.toUInt64
  else ((e + 1075).toNat * Nat.pow 2 52 + (q - Nat.pow 2 52)).toUInt64

/-- The double nearest to `m · 10^t`, negated when `negative`.  With `d` the number of
digits of `m`, the value lies in `[10^(t+d-1), 10^(t+d))`: when `t + d ≤ -324` it is below
half the least positive double and reads as zero, and when `t + d > 309` it is beyond the
greatest double and reads as infinity, so no power of ten is formed for far exponents. -/
def nearest (negative : Bool) (m : Nat) (t : Int) : Float :=
  let d : Int := (Nat.toDigits 10 m).length
  let x :=
    if m = 0 ∨ t + d ≤ -324 then Float.ofBits 0
    else if 309 < t + d then Float.ofBits 0x7FF0000000000000
    else
      let (num, den) := fraction m t
      Float.ofBits (nearestBits num den)
  if negative then -x else x

/-- The value of a run of decimal digits. -/
def digitsValue (ds : List Char) : Nat := ds.foldl (fun a c => a * 10 + (c.toNat - 48)) 0

/-- Split off a leading sign: whether it is a minus, and the rest. -/
def takeSign : List Char → Bool × List Char
  | '-' :: cs => (true, cs)
  | '+' :: cs => (false, cs)
  | cs => (false, cs)

/-- The exponent part of a numeral: `e` or `E`, an optional sign, and digits. -/
def readExponent (cs : List Char) : Option Int :=
  match cs with
  | [] => some 0
  | c :: rest =>
    if c = 'e' ∨ c = 'E' then
      let (neg, ds) := takeSign rest
      if !ds.isEmpty && ds.all Char.isDigit then
        some (if neg then -(digitsValue ds : Int) else digitsValue ds)
      else none
    else none

/-- The special values, read in any case of letters. -/
def special? (cs : List Char) : Option Float :=
  let w := String.ofList (cs.map Char.toLower)
  if w = "inf" ∨ w = "infinity" then some (1.0 / 0.0)
  else if w = "nan" then some (0.0 / 0.0)
  else none

/-- The double a decimal numeral reads as, if it is one. -/
def readFloat? (cs : List Char) : Option Float :=
  let (neg, body) := takeSign cs
  match special? body with
  | some x => some (if neg then -x else x)
  | none =>
    let whole := body.takeWhile Char.isDigit
    let afterWhole := body.dropWhile Char.isDigit
    let (frac, afterFrac) := match afterWhole with
      | '.' :: rest => (rest.takeWhile Char.isDigit, rest.dropWhile Char.isDigit)
      | rest => ([], rest)
    if whole.isEmpty && frac.isEmpty then none
    else
      (readExponent afterFrac).map fun t =>
        nearest neg (digitsValue (whole ++ frac)) (t - frac.length)

end SqlAssist.Decimal
