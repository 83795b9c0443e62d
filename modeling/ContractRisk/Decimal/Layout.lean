import ContractRisk.Decimal.Shortest
import ContractRisk.Text.Numeral

/-!
# Decimal text of doubles

A `Layout` says where positional notation ends and how an exponent is written. `plain` is the form in
messages, `compact` the form in the serialised bundle.
-/

namespace ContractRisk.Decimal

structure Layout where
  /-- the least exponent of the first digit that is still written positionally -/
  least : Int
  /-- the first exponent that no longer is -/
  beyond : Int
  /-- least number of digits of a written exponent -/
  exponentDigits : Nat
  /-- is a whole number written with a zero after the point? -/
  pointZero : Bool

/-- positional from 0.0001 to below 10^16; exponents have a sign and two digits -/
def plain : Layout := ⟨-4, 16, 2, true⟩

/-- positional from 0.00001 to below 10^16; exponents have a sign and no padding -/
def compact : Layout := ⟨-5, 16, 1, true⟩

/-- six significant digits: positional from 0.0001 to below 10^6 -/
def brief : Layout := ⟨-4, 6, 2, false⟩

def zeros (n : Nat) : String := String.ofList (List.replicate n '0')

/-- the first digit, then the others behind a point -/
def pointed (ds : List Char) : String :=
  match ds with
  | [] => ""
  | [d] => String.ofList [d]
  | d :: r => String.ofList (d :: '.' :: r)

def Layout.exponent (l : Layout) (e : Int) : String :=
  "e" ++ (if e < 0 then "-" else "+") ++ Text.padLeft l.exponentDigits '0' (Text.natText e.natAbs)

/-- `digits · 10 ^ power` without a sign -/
def Layout.unsigned (l : Layout) (digits : Nat) (power : Int) : String :=
  let ds := Nat.toDigits 10 digits
  let first : Int := ds.length - 1 + power
  let tail := if l.pointZero then ".0" else ""
  if digits = 0 then "0" ++ tail
  else if first < l.least ∨ l.beyond ≤ first then pointed ds ++ l.exponent first
  else if 0 ≤ power then String.ofList ds ++ zeros power.toNat ++ tail
  else if 0 ≤ first then
    let whole := first.toNat + 1
    String.ofList (ds.take whole) ++ "." ++ String.ofList (ds.drop whole)
  else "0." ++ zeros (-first - 1).toNat ++ String.ofList ds

def sign (negative : Bool) : String := if negative then "-" else ""

def Layout.finite (l : Layout) (negative : Bool) (mant : Nat) (exp : Int) : String :=
  if mant = 0 then sign negative ++ l.unsigned 0 0
  else
    let (d, p) := shortest mant exp
    sign negative ++ l.unsigned d p

/-- the text of a double in messages -/
def text (x : Float) : String :=
  match Binary64.ofFloat x with
  | .nan => "nan"
  | .infinite negative => sign negative ++ "inf"
  | .finite negative mant exp => plain.finite negative mant exp

/-! ## rounded forms -/

/-- a natural number of `10 ^ -places`, written with that many places -/
def withPlaces (places n : Nat) : String :=
  let ds := Nat.toDigits 10 n
  let ds := List.replicate (places + 1 - ds.length) '0' ++ ds
  let whole := ds.length - places
  String.ofList (ds.take whole) ++
    if places = 0 then "" else "." ++ String.ofList (ds.drop whole)

/-- a fixed number of places after the point -/
def fixed (places : Nat) (x : Float) : String :=
  match Binary64.ofFloat x with
  | .nan => "nan"
  | .infinite negative => sign negative ++ "inf"
  | .finite negative mant exp =>
    let (n, d) := Binary64.ratio mant exp
    sign negative ++ withPlaces places (Binary64.roundDiv (n * 10 ^ places) d)

/-- a share of one as whole percent -/
def percent (x : Float) : String := fixed 0 (x * 100) ++ "%"

/-- six significant digits without trailing zeros -/
def general (x : Float) : String :=
  match Binary64.ofFloat x with
  | .nan => "nan"
  | .infinite negative => sign negative ++ "inf"
  | .finite negative mant exp =>
    if mant = 0 then sign negative ++ "0"
    else
      let (n, d) := Binary64.ratio mant exp
      let power := floorLog n d - 5
      let rounded := Binary64.roundDiv (n * 10 ^ (-power).toNat) (d * 10 ^ power.toNat)
      let (digits, power) := stripZeros rounded power 8
      sign negative ++ brief.unsigned digits power

/-- the double nearest to the value rounded to a number of places -/
def roundPlaces (places : Nat) (x : Float) : Float :=
  match Binary64.ofFloat x with
  | .finite negative mant exp =>
    let (n, d) := Binary64.ratio mant exp
    Binary64.nearest negative (Binary64.roundDiv (n * 10 ^ places) d) (10 ^ places)
  | _ => x

end ContractRisk.Decimal
