/-!
# Sets of characters as sorted ranges

A set of code points is an array of closed ranges in ascending order; `CharRange.mem` looks a
code point up by halving. The tables of this folder are such arrays, after Unicode 14.
-/

namespace ContractRisk.Text.CharRange

/-- is `c` in one of the ranges with index in `[lo, hi)`? -/
def memBetween (table : Array (Nat × Nat)) (c : Nat) (lo hi : Nat) : Bool :=
  if _h : lo < hi then
    let mid := (lo + hi) / 2
    let (a, b) := table.getD mid (1, 0)
    if c < a then memBetween table c lo mid
    else if b < c then memBetween table c (mid + 1) hi
    else a ≤ c
  else false
termination_by hi - lo

def mem (table : Array (Nat × Nat)) (c : Char) : Bool :=
  memBetween table c.toNat 0 table.size

end ContractRisk.Text.CharRange
