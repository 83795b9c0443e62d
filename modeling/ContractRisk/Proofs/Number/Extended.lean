import Mathlib.Algebra.BigOperators.Group.List.Basic
import Mathlib.Data.Rat.Defs
import ContractRisk.Proofs.Number.Fraction

/-!
# The analysis over fractions with infinities and NaN

`Extended` adds to the exact fractions what a number of a bundle may be besides: one of the infinities, or
NaN, which compares with nothing. Operations follow the doubles but for the rounding, and for division by
zero, which has no result and counts as NaN.

Numbers of the unit interval (`InUnit`) are finite. They are closed under what detectors compute with:
ratios, products, complements, the lesser and the greater of two.
-/

namespace ContractRisk

inductive Extended where
  | nan
  | infinite (negative : Bool)
  | finite (q : ℚ)
deriving DecidableEq

namespace Extended

/-! ## operations -/

def neg : Extended → Extended
  | nan => nan
  | infinite n => infinite !n
  | finite q => finite (-q)

def add : Extended → Extended → Extended
  | finite p, finite q => finite (p + q)
  | infinite m, infinite n => if m = n then infinite m else nan
  | infinite m, finite _ => infinite m
  | finite _, infinite n => infinite n
  | _, _ => nan

def mul : Extended → Extended → Extended
  | finite p, finite q => finite (p * q)
  | infinite m, infinite n => infinite (m ^^ n)
  | infinite m, finite q => if q = 0 then nan else infinite (m ^^ decide (q < 0))
  | finite p, infinite n => if p = 0 then nan else infinite (n ^^ decide (p < 0))
  | _, _ => nan

/-- an infinity by a number is one of the two infinities, a number by an infinity is zero -/
def div : Extended → Extended → Extended
  | finite p, finite q => if q = 0 then nan else finite (p / q)
  | infinite m, finite q => if q = 0 then nan else infinite (m ^^ decide (q < 0))
  | finite _, infinite _ => finite 0
  | _, _ => nan

/-- the order, in which NaN has no place -/
def less : Extended → Extended → Bool
  | finite p, finite q => p < q
  | infinite m, infinite n => m && !n
  | infinite m, finite _ => m
  | finite _, infinite n => !n
  | _, _ => false

def isNaN : Extended → Bool
  | nan => true
  | _ => false

def atMost (x y : Extended) : Bool := less x y || x == y && !x.isNaN

/-- what a double stands for -/
def ofDouble (x : Float) : Extended :=
  match Binary64.ofFloat x with
  | .nan => nan
  | .infinite negative => infinite negative
  | .finite _ _ _ => finite (exactValue x)

/-- the nearest double; fractions beyond all doubles become infinities -/
def toDouble : Extended → Float
  | nan => .ofBits 0x7ff8000000000000
  | infinite negative => Binary64.nearest negative (2 ^ 2000) 1
  | finite q => Scalar.toFloat q

def round : Extended → Int
  | finite q => Scalar.round q
  | _ => 0

instance : Scalar Extended where
  add := add
  sub x y := add x (neg y)
  mul := mul
  div := div
  ofScientific m s e := finite (OfScientific.ofScientific m s e)
  lt x y := less x y = true
  le x y := atMost x y = true
  decideLt x y := inferInstanceAs (Decidable (less x y = true))
  decideLe x y := inferInstanceAs (Decidable (atMost x y = true))
  ofInt i := finite i
  ofFloat := ofDouble
  toFloat := toDouble
  round := round

/-! ### on fractions -/

section
variable (p q : ℚ)

theorem finite_add : finite p + finite q = finite (p + q) := rfl

theorem finite_sub : finite p - finite q = finite (p - q) := by
  show finite (p + -q) = finite (p - q)
  rw [sub_eq_add_neg]

theorem finite_mul : finite p * finite q = finite (p * q) := rfl

theorem finite_div {q : ℚ} (hq : q ≠ 0) : finite p / finite q = finite (p / q) := if_neg hq

theorem finite_lt : finite p < finite q ↔ p < q := decide_eq_true_iff

theorem finite_le : finite p ≤ finite q ↔ p ≤ q := by
  show atMost (finite p) (finite q) = true ↔ p ≤ q
  unfold atMost less isNaN
  rw [Bool.not_false, Bool.and_true, Bool.or_eq_true, decide_eq_true_iff, beq_iff_eq,
    finite.injEq, le_iff_lt_or_eq]

theorem lesser_finite : Scalar.lesser (finite p) (finite q) = finite (min p q) := by
  rw [← lesser_eq_min]
  unfold Scalar.lesser
  simp only [finite_lt, apply_ite finite]

theorem greater_finite : Scalar.greater (finite p) (finite q) = finite (max p q) := by
  rw [← greater_eq_max]
  unfold Scalar.greater
  simp only [finite_lt, apply_ite finite]

end

/-- a sum of fractions is their sum -/
theorem sum_finite {β : Type} {f : β → Extended} {g : β → ℚ} {xs : List β}
    (h : ∀ x ∈ xs, f x = finite (g x)) : Scalar.sum (xs.map f) = finite (xs.map g).sum := by
  have hfold : ∀ start, (xs.map f).foldl (· + ·) (finite start) = finite (start + (xs.map g).sum) := by
    induction xs with
    | nil => exact fun start => congrArg finite (add_zero start).symm
    | cons x xs ih =>
      intro start
      rw [List.map_cons, List.foldl_cons, h x List.mem_cons_self, finite_add,
        ih fun y hy => h y (List.mem_cons_of_mem x hy), List.map_cons, List.sum_cons, add_assoc]
  exact (hfold _).trans (congrArg finite (zero_add _))

/-! ## the unit interval -/

def InUnit (x : Extended) : Prop := ∃ q, x = finite q ∧ 0 ≤ q ∧ q ≤ 1

/-- the fraction that a number is, zero if it is none -/
def fraction : Extended → ℚ
  | finite q => q
  | _ => 0

namespace InUnit
variable {x y : Extended}

theorem eq_finite (h : InUnit x) : x = finite x.fraction := by
  obtain ⟨q, rfl, _⟩ := h
  rfl

theorem nonneg (h : InUnit x) : 0 ≤ x.fraction := by
  obtain ⟨q, rfl, h0, _⟩ := h
  exact h0

theorem le_one (h : InUnit x) : x.fraction ≤ 1 := by
  obtain ⟨q, rfl, _, h1⟩ := h
  exact h1

theorem of_fraction {q : ℚ} (h0 : 0 ≤ q) (h1 : q ≤ 1) : InUnit (finite q) := ⟨q, rfl, h0, h1⟩

theorem zero : InUnit (0.0 : Extended) := of_fraction (q := 0.0) (by norm_num) (by norm_num)

theorem one : InUnit (1.0 : Extended) := of_fraction (q := 1.0) (by norm_num) (by norm_num)

/-- a part is no more than the whole -/
theorem ratio {part whole : ℕ} (hle : part ≤ whole) (hpos : 0 < whole) :
    InUnit (Scalar.ofInt part / Scalar.ofInt whole) := by
  have hwhole : (0 : ℚ) < whole := by exact_mod_cast hpos
  have hpart : (part : ℚ) ≤ whole := by exact_mod_cast hle
  have hdiv : (Scalar.ofInt part / Scalar.ofInt whole : Extended) = finite (part / whole) :=
    finite_div part hwhole.ne'
  rw [hdiv]
  exact of_fraction (div_nonneg part.cast_nonneg hwhole.le) (div_le_one_of_le₀ hpart hwhole.le)

theorem mul (hx : InUnit x) (hy : InUnit y) : InUnit (x * y) := by
  obtain ⟨p, rfl, hp0, hp1⟩ := hx
  obtain ⟨q, rfl, hq0, hq1⟩ := hy
  exact ⟨p * q, rfl, mul_nonneg hp0 hq0, mul_le_one₀ hp1 hq0 hq1⟩

theorem complement (hx : InUnit x) : InUnit ((1.0 : Extended) - x) := by
  obtain ⟨q, rfl, h0, h1⟩ := hx
  have hsub : (1.0 : Extended) - finite q = finite (1.0 - q) := finite_sub 1.0 q
  rw [hsub]
  exact of_fraction (by linarith) (by linarith)

theorem lesser (hx : InUnit x) (hy : InUnit y) : InUnit (Scalar.lesser x y) := by
  unfold Scalar.lesser
  split
  · exact hy
  · exact hx

theorem greater (hx : InUnit x) (hy : InUnit y) : InUnit (Scalar.greater x y) := by
  unfold Scalar.greater
  split
  · exact hy
  · exact hx

theorem lesser_le (hx : InUnit x) (hy : InUnit y) : Scalar.lesser x y ≤ x := by
  obtain ⟨p, rfl, _⟩ := hx
  obtain ⟨q, rfl, _⟩ := hy
  rw [lesser_finite, finite_le]
  exact min_le_left p q

end InUnit

end Extended

end ContractRisk
