import ContractRisk.Decimal.Layout

/-!
# Numbers of the analysis

Percentages, scores and confidences are computed in a type `α` with `Scalar α`: the four operations, an
order that can be decided, and conversions. The program runs on doubles; whatever is defined here over
all of `α` can as well be read over exact fractions.
-/

namespace ContractRisk

class Scalar (α : Type) extends Add α, Sub α, Mul α, Div α, OfScientific α, LT α, LE α where
  decideLt : DecidableLT α
  decideLe : DecidableLE α
  ofInt : Int → α
  /-- the number that a double in the input stands for -/
  ofFloat : Float → α
  /-- the double nearest to a number, for texts and metadata -/
  toFloat : α → Float
  /-- the nearest whole number, a half going to the even one -/
  round : α → Int

instance Scalar.instDecidableLT {α : Type} [Scalar α] : DecidableLT α := Scalar.decideLt

instance Scalar.instDecidableLE {α : Type} [Scalar α] : DecidableLE α := Scalar.decideLe

instance : Scalar Float where
  ofScientific digits negative power :=
    Binary64.ofDecimal false digits (if negative then -(power : Int) else power)
  decideLt := inferInstance
  decideLe := inferInstance
  ofInt := Binary64.ofInt
  ofFloat x := x
  toFloat x := x
  round x := (Binary64.round? x).getD 0

namespace Scalar

variable {α : Type} [Scalar α]

/-- the first number, unless the second one is less -/
def lesser (a b : α) : α := if b < a then b else a

/-- the first number, unless the second one is greater -/
def greater (a b : α) : α := if a < b then b else a

/-- the sum from left to right, from zero -/
def sum (xs : List α) : α := xs.foldl (· + ·) (ofInt 0)

/-- six significant digits -/
def brief (x : α) : String := Decimal.general (toFloat x)

/-- a fixed number of places -/
def fixed (places : Nat) (x : α) : String := Decimal.fixed places (toFloat x)

end Scalar

end ContractRisk
