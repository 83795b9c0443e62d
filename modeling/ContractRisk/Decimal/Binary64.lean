/-!
# Doubles as exact fractions

A finite double is `± mant · 2 ^ exp` (`Binary64.ofFloat`); `nearest` goes back from a fraction to the
double closest to it, a tie going to the even one. All decimal text of this library is made from
these two, in exact arithmetic on naturals.
-/

namespace ContractRisk

-- powers of whole numbers are those of core, also in a file that sees other instances of `^`
attribute [instance (high), default_instance high] instPowNat

/-- the value of a double -/
inductive Binary64 where
  | nan
  | infinite (negative : Bool)
  | finite (negative : Bool) (mant : Nat) (exp : Int)
deriving Repr, DecidableEq

namespace Binary64

def ofFloat (x : Float) : Binary64 :=
  let bits := x.toBits.toNat
  let negative := 2 ^ 63 ≤ bits
  let biased : Nat := bits / 2 ^ 52 % 2 ^ 11
  let field : Nat := bits % 2 ^ 52
  if biased = 2047 then if field = 0 then .infinite negative else .nan
  else if biased = 0 then .finite negative field (-1074)
  else .finite negative (2 ^ 52 + field) ((biased : Int) - 1075)

/-- `mant · 2 ^ exp` as numerator and denominator -/
def ratio (mant : Nat) (exp : Int) : Nat × Nat := (mant * 2 ^ exp.toNat, 2 ^ (-exp).toNat)

/-- the quotient to the nearest natural, a half going to the even one -/
def roundDiv (num den : Nat) : Nat :=
  let q := num / den
  let r := num % den
  if 2 * r < den then q else if den < 2 * r then q + 1 else if q % 2 = 0 then q else q + 1

/-- the quotient `num / den` scaled by `2 ^ (-exp)`, as a fraction -/
def scaled (num den : Nat) (exp : Int) : Nat × Nat := (num * 2 ^ (-exp).toNat, den * 2 ^ exp.toNat)

/-- the exponent at which `num / den` has 53 bits, from below at most that of the least double -/
def exponentFor (num den : Nat) : Int :=
  let guess : Int := num.log2 - den.log2 - 52
  let (n, d) := scaled num den guess
  max (-1074) (if n < 2 ^ 52 * d then guess - 1 else guess)

/-- the bits of the double nearest to `num / den`, without a sign -/
def nearestBits (num den : Nat) : Nat :=
  if num = 0 then 0 else
  let exp := exponentFor num den
  let (n, d) := scaled num den exp
  min ((exp + 1074).toNat * 2 ^ 52 + roundDiv n d) (2047 * 2 ^ 52)

/-- the double nearest to `± num / den` -/
def nearest (negative : Bool) (num den : Nat) : Float :=
  .ofBits (.ofNat (nearestBits num den + if negative then 2 ^ 63 else 0))

/-- the double nearest to a whole number -/
def ofInt (i : Int) : Float := nearest (i < 0) i.natAbs 1

/-- is the whole number too large for a finite double? -/
def overflows (i : Int) : Bool := nearestBits i.natAbs 1 == 2047 * 2 ^ 52

/-- the double nearest to `± digits · 10 ^ power` -/
def ofDecimal (negative : Bool) (digits : Nat) (power : Int) : Float :=
  if digits = 0 then nearest negative 0 1
  else
    let size : Int := (Nat.toDigits 10 digits).length + power
    if 400 < size then nearest negative (2 ^ 2000) 1
    else if size < -400 then nearest negative 0 1
    else nearest negative (digits * 10 ^ power.toNat) (10 ^ (-power).toNat)

def signed (negative : Bool) (n : Nat) : Int := if negative then -(n : Int) else n

/-- the nearest whole number, a half going to the even one -/
def round? (x : Float) : Option Int :=
  match ofFloat x with
  | .finite negative mant exp =>
    let (n, d) := ratio mant exp
    let r := roundDiv n d
    some (signed negative r)
  | _ => none

/-- the whole part, toward zero -/
def truncate? (x : Float) : Option Int :=
  match ofFloat x with
  | .finite negative mant exp =>
    let (n, d) := ratio mant exp
    some (signed negative (n / d))
  | _ => none

/-- the whole number a double stands for, if it has no fraction -/
def whole? (x : Float) : Option Int :=
  match ofFloat x with
  | .finite negative mant exp =>
    let (n, d) := ratio mant exp
    if n % d = 0 then some (signed negative (n / d)) else none
  | _ => none

/-- the largest whole number not above a double -/
def floor? (x : Float) : Option Int :=
  match ofFloat x with
  | .finite negative mant exp =>
    let (n, d) := ratio mant exp
    some (if negative then signed true ((n + d - 1) / d) else signed false (n / d))
  | _ => none

end Binary64

end ContractRisk
