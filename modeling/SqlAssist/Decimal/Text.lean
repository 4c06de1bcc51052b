import SqlAssist.Decimal.Shortest

/-!
# Writing a float

A float is written with its shortest digits (`SqlAssist.Decimal.Shortest`).  Let the
digits be `d₁ … dₙ` and the decimal point stand after `k` of them (so the value is
`0.d₁ … dₙ · 10^k`).

* For `-4 < k ≤ 16` the text is positional: the digits with the point inside them,
  zeros added before or after as needed, and `.0` when there is no fractional part
  (`5.0`, `0.0001`, `1000000000000000.0`).
* Otherwise it is scientific: the first digit, the other digits after a point if there
  are any, `e`, the sign of the exponent and at least two exponent digits
  (`1e-05`, `1e+16`, `1.25e-07`).
* Zero is `0.0` or `-0.0`, and the values that are not finite are `inf`, `-inf` and
  `nan`.
-/

namespace SqlAssist.Decimal

/-- The decimal digits of a natural number. -/
def digitsOf (n : Nat) : List Char := (Nat.repr n).toList

/-- Positional or scientific text of the digits `ds` with the point after `k` digits. -/
def placeDigits (ds : List Char) (k : Int) : String :=
  if -4 < k ∧ k ≤ 16 then
    if k ≤ 0 then "0." ++ String.ofList (List.replicate (-k).toNat '0' ++ ds)
    else if ds.length ≤ k.toNat then
      String.ofList (ds ++ List.replicate (k.toNat - ds.length) '0') ++ ".0"
    else String.ofList (ds.take k.toNat) ++ "." ++ String.ofList (ds.drop k.toNat)
  else
    let x := k - 1
    let mant := match ds with
      | d :: [] => String.singleton d
      | d :: rest => String.singleton d ++ "." ++ String.ofList rest
      | [] => "0"
    let expDigits := digitsOf x.natAbs
    let padded := if expDigits.length < 2 then '0' :: expDigits else expDigits
    mant ++ "e" ++ (if x < 0 then "-" else "+") ++ String.ofList padded

/-- The text of a float. -/
def floatText (x : Float) : String :=
  if x.isNaN then "nan"
  else if x.isInf then (if x < 0 then "-inf" else "inf")
  else
    let bits := x.toBits
    let sign := if bits >>> 63 = 1 then "-" else ""
    if bits &&& 0x7FFFFFFFFFFFFFFF = 0 then sign ++ "0.0"
    else
      let (c, t) := shortestDigits bits
      let ds := digitsOf c
      sign ++ placeDigits ds (ds.length + t)

end SqlAssist.Decimal
