import ContractRisk.Decimal.Binary64

/-!
# The fewest digits that read back

`shortest mant exp` gives digits and a power of ten for `mant · 2 ^ exp`: of all decimals that are
nearer to this double than to any other it has the fewest digits, and among those it is the nearest.
The search tries the two neighbours of the value on ever finer decimal grids; seventeen digits are
always enough.
-/

namespace ContractRisk.Decimal

/-- the largest `e` with `10 ^ e ≤ num / den`, searched down from `e`, for at most `fuel` steps -/
def floorLogFrom (num den : Nat) (e : Int) : Nat → Int
  | 0 => e
  | fuel + 1 =>
    if den * 10 ^ e.toNat ≤ num * 10 ^ (-e).toNat then e else floorLogFrom num den (e - 1) fuel

/-- the decimal exponent of the first digit of `num / den` -/
def floorLog (num den : Nat) : Int :=
  let bits : Int := num.log2 - den.log2 + 1
  floorLogFrom num den (Int.fdiv (bits * 30103) 100000 + 1) 4

/-- a double in exact form: its value and the bounds of the reals that round to it, in units of
`1 / den` -/
structure Interval where
  value : Nat
  low : Nat
  high : Nat
  den : Nat
  closed : Bool

def Interval.ofDouble (mant : Nat) (exp : Int) : Interval :=
  let (n, d) := Binary64.ratio mant exp
  let unit := 2 ^ exp.toNat
  -- below a power of two the doubles lie twice as dense
  let below := if mant = 2 ^ 52 ∧ -1074 < exp then unit else 2 * unit
  { value := 4 * n, low := 4 * n - below, high := 4 * n + 2 * unit, den := 4 * d,
    closed := mant % 2 = 0 }

/-- does `digits · 10 ^ power` round to the double? -/
def Interval.holds (i : Interval) (digits : Nat) (power : Int) : Bool :=
  let x := digits * 10 ^ power.toNat * i.den
  let scale := 10 ^ (-power).toNat
  if i.closed then i.low * scale ≤ x && x ≤ i.high * scale
  else i.low * scale < x && x < i.high * scale

/-- the grid neighbour to write at this power, if one rounds to the double -/
def Interval.onGrid? (i : Interval) (power : Int) : Option Nat :=
  let num := i.value * 10 ^ (-power).toNat
  let den := i.den * 10 ^ power.toNat
  let down := num / den
  let fits d := 0 < d && i.holds d power
  if fits down && fits (down + 1) then some (Binary64.roundDiv num den)
  else if fits down then some down
  else if fits (down + 1) then some (down + 1)
  else none

/-- grids from `power` downward -/
def Interval.search (i : Interval) (power : Int) : Nat → Nat × Int
  | 0 => (0, 0)
  | fuel + 1 =>
    match i.onGrid? power with
    | some d => (d, power)
    | none => i.search (power - 1) fuel

/-- takes zeros off the end of the digits -/
def stripZeros (digits : Nat) (power : Int) : Nat → Nat × Int
  | 0 => (digits, power)
  | fuel + 1 =>
    if digits % 10 = 0 ∧ digits ≠ 0 then stripZeros (digits / 10) (power + 1) fuel
    else (digits, power)

def shortest (mant : Nat) (exp : Int) : Nat × Int :=
  let i := Interval.ofDouble mant exp
  let (d, p) := i.search (floorLog i.value i.den) 18
  stripZeros d p 20

end ContractRisk.Decimal
