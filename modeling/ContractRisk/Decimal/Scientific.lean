import ContractRisk.Decimal.Layout

/-!
# Decimal text to a number of digits

`scientific` writes one digit before the point, a number of places behind it and an exponent; `generalTo`
takes that form or the positional one, whichever suits the size. Both are for magnitudes: the sign and the
words for what is not finite are left to the caller.
-/

namespace ContractRisk.Decimal

/-- `n / d` rounded to `count` digits, and the exponent of the first of them -/
def significant (count n d : Nat) : Nat × Int :=
  let first := floorLog n d
  let power := first - (count - 1 : Nat)
  let r := Binary64.roundDiv (n * 10 ^ (-power).toNat) (d * 10 ^ power.toNat)
  if r = 10 ^ count then (r / 10, first + 1) else (r, first)

/-- `count` digits of a finite magnitude -/
def digitsOf (count mant : Nat) (exp : Int) : Nat × Int :=
  if mant = 0 then (0, 0)
  else
    let (n, d) := Binary64.ratio mant exp
    significant count n d

/-- as many digits as asked for, zeros in front if there are fewer -/
def padded (count digits : Nat) : List Char :=
  let ds := Nat.toDigits 10 digits
  List.replicate (count - ds.length) '0' ++ ds

/-- without the zeros that end the part behind the point, and without a point that ends the text -/
def trimmed (s : String) : String :=
  if s.contains '.' then
    let cs := (s.toList.reverse.dropWhile (· = '0')).dropWhile (· = '.')
    String.ofList cs.reverse
  else s

/-- a text that has a point, if it must have one -/
def withPoint (needed : Bool) (s : String) : String :=
  if needed && !s.contains '.' then s ++ "." else s

def scientific (places : Nat) (keepPoint : Bool) (mant : Nat) (exp : Int) : String :=
  let (digits, first) := digitsOf (places + 1) mant exp
  withPoint keepPoint (pointed (padded (places + 1) digits)) ++ plain.exponent first

/-- to at least one digit; positional from 0.0001 as long as all digits before the point are known -/
def generalTo (count : Nat) (keepZeros : Bool) (mant : Nat) (exp : Int) : String :=
  let count := max 1 count
  let (digits, first) := digitsOf count mant exp
  let finish (s : String) := if keepZeros then withPoint true s else trimmed s
  if first < -4 ∨ count ≤ first then
    finish (pointed (padded count digits)) ++ plain.exponent first
  else finish (withPlaces (count - 1 - first).toNat digits)

end ContractRisk.Decimal
