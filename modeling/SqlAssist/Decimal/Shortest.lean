/-!
# Shortest decimal text of a binary float

A finite double `v = m · 2^e` is read back from a decimal text by rounding to the nearest
double, ties to the even significand.  The set of reals that read back as `v` is
therefore an interval around `v`: half the gap to each neighbour on either side, ends
included exactly when `m` is even.  At a power of two the gap below is half the gap
above.

The shortest text of `v` is a decimal `c · 10^t` in that interval with the fewest digits;
of two such decimals with equally few digits the one nearer to `v` is taken, and of two
equally near the one with the even last digit.  It is found by trying the decimal grids
`10^t` from coarse to fine: on each grid only the two grid points next to `v` can fall in
the interval, and the first grid with a hit gives the digits.

Everything here is exact arithmetic on natural numbers: the value, the interval and the
grid points are compared as fractions.
-/

namespace SqlAssist.Decimal

/-- A finite positive double as `m · 2^e`, with whether the gap below it is half the gap
above it (the significand is a power of two and the exponent is not the least). -/
structure Binary where
  m : Nat
  e : Int
  narrowBelow : Bool

/-- Decode the bits of a double that is finite and not zero: significand, exponent and
the shape of its rounding interval.  The sign is ignored. -/
def Binary.ofBits (bits : UInt64) : Binary :=
  let expBits := ((bits >>> 52) &&& 0x7FF).toNat
  let frac := (bits &&& 0xFFFFFFFFFFFFF).toNat
  if expBits = 0 then ⟨frac, -1074, false⟩
  else ⟨frac + Nat.pow 2 52, (expBits : Int) - 1075, frac = 0 ∧ 1 < expBits⟩

/-- A positive rational number `num / den`. -/
structure Ratio where
  num : Nat
  den : Nat

/-- The rational `k · 2^s · 10^t` for integer exponents. -/
def Ratio.scaled (k : Nat) (s t : Int) : Ratio :=
  ⟨k * Nat.pow 2 s.toNat * Nat.pow 10 t.toNat, Nat.pow 2 (-s).toNat * Nat.pow 10 (-t).toNat⟩

/-- `a ≤ b` between two rationals. -/
def Ratio.le (a b : Ratio) : Bool := a.num * b.den ≤ b.num * a.den

/-- `a < b` between two rationals. -/
def Ratio.lt (a b : Ratio) : Bool := a.num * b.den < b.num * a.den

/-- The distance `|a - b|` compared: whether `a` is nearer to `v` than `b` (strictly). -/
def Ratio.nearer (v a b : Ratio) : Bool :=
  -- |a - v| < |b - v|, over the common denominator a.den * b.den * v.den
  let av := (a.num * v.den : Int) - v.num * a.den
  let bv := (b.num * v.den : Int) - v.num * b.den
  av.natAbs * b.den < bv.natAbs * a.den

/-- The rounding interval of `x`: its ends and whether they read back as `x`. -/
structure Interval where
  lo : Ratio
  hi : Ratio
  closed : Bool

/-- The value of a decoded double, in units of `2^(e-2)`. -/
def Binary.value (x : Binary) : Ratio := Ratio.scaled (4 * x.m) (x.e - 2) 0

/-- The reals that read back as `x`. -/
def Binary.interval (x : Binary) : Interval :=
  let below := if x.narrowBelow then 1 else 2
  ⟨Ratio.scaled (4 * x.m - below) (x.e - 2) 0, Ratio.scaled (4 * x.m + 2) (x.e - 2) 0,
    x.m % 2 = 0⟩

/-- Whether a rational lies in a rounding interval. -/
def Interval.contains (i : Interval) (r : Ratio) : Bool :=
  if i.closed then i.lo.le r && r.le i.hi else i.lo.lt r && r.lt i.hi

/-- The decimal exponent of the leading digit of `x`: the `p` with `10^p ≤ x < 10^(p+1)`,
searched upward from a guess `p`, within `fuel` steps. -/
def leadingExponent (v : Ratio) : Nat → Int → Int
  | 0, p => p
  | fuel + 1, p =>
    if (Ratio.scaled 1 0 (p + 1)).le v then leadingExponent v fuel (p + 1)
    else if v.lt (Ratio.scaled 1 0 p) then leadingExponent v fuel (p - 1)
    else p

/-- The decimal `c · 10^t` in the interval on the grid `10^t`, if one of the two grid
points next to `v` lies there; the nearer to `v` when both do, the even one on a tie. -/
def gridHit (v : Ratio) (i : Interval) (t : Int) : Option Nat :=
  let c := v.num * Nat.pow 10 (-t).toNat / (v.den * Nat.pow 10 t.toNat)
  let a := Ratio.scaled c 0 t
  let b := Ratio.scaled (c + 1) 0 t
  match i.contains a, i.contains b with
  | true, true =>
    if Ratio.nearer v a b then some c
    else if Ratio.nearer v b a then some (c + 1)
    else if c % 2 = 0 then some c else some (c + 1)
  | true, false => some c
  | false, true => some (c + 1)
  | false, false => none

/-- The first grid, from `10^t` downward over `n` grids, with a decimal in the interval. -/
def firstHit (v : Ratio) (i : Interval) : Nat → Int → Option (Nat × Int)
  | 0, _ => none
  | n + 1, t =>
    match gridHit v i t with
    | some c => some (c, t)
    | none => firstHit v i n (t - 1)

/-- Strip trailing zeros of the digits `c` of `c · 10^t`. -/
def trimZeros : Nat → Nat → Int → Nat × Int
  | 0, c, t => (c, t)
  | fuel + 1, c, t => if c ≠ 0 ∧ c % 10 = 0 then trimZeros fuel (c / 10) (t + 1) else (c, t)

/-- The shortest digits `c` and exponent `t` of a finite positive double given by its
bits, so that `c · 10^t` reads back as it, with no trailing zero in `c`. -/
def shortestDigits (bits : UInt64) : Nat × Int :=
  let x := Binary.ofBits bits
  let v := x.value
  let guess : Int := ((Nat.log2 x.m : Int) + x.e) * 30103 / 100000
  let p := leadingExponent v 700 guess
  match firstHit v x.interval 20 (p + 1) with
  | some (c, t) => trimZeros 400 c t
  | none => (x.m, 0)

end SqlAssist.Decimal
