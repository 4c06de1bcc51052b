/-!
# Tables of code-point intervals

A character property of the Unicode database is stored as an array of closed
intervals `(lo, hi)` of code points, sorted by `lo`, each ending before the next one
starts.  Membership is then a binary search: `inRanges` halves the window of candidate
intervals until one contains the code point or the window is empty.
-/

namespace SqlAssist.Text

/-- Binary search for an interval containing `n` among the entries `lo` (inclusive)
to `hi` (exclusive) of a sorted table of disjoint intervals. -/
def searchRanges (t : Array (Nat × Nat)) (n : Nat) (lo hi : Nat) : Bool :=
  if lo < hi then
    let mid := (lo + hi) / 2
    match t[mid]? with
    | none => false
    | some (a, b) =>
      if n < a then searchRanges t n lo mid
      else if b < n then searchRanges t n (mid + 1) hi
      else true
  else false
termination_by hi - lo

/-- Whether the code point `n` lies in one of the intervals of the table `t`. -/
def inRanges (t : Array (Nat × Nat)) (n : Nat) : Bool := searchRanges t n 0 t.size

end SqlAssist.Text
