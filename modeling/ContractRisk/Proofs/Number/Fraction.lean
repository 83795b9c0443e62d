import ContractRisk.Detector
import ContractRisk.RiskProfile
import Mathlib.Algebra.Order.Field.Basic
import Mathlib.Data.Rat.Cast.Order
import Mathlib.Tactic.FieldSimp
import Mathlib.Tactic.Linarith
import Mathlib.Tactic.NormNum

/-!
# The analysis over exact fractions

All scores can be computed over `ℚ` in place of doubles: a double in the input counts by its exact
value, and only texts and metadata round. There the composite score is a clamped quotient of whole
numbers (`scoreOf_eq`), and it exceeds the bound of escalation by a linear inequality between the counts
of the severities:

* `needsEscalation_iff`   `15 * high + 29 * medium + 39 * low < 5 * critical`.
-/

namespace ContractRisk

/-- the value of a finite double; infinities and NaN have none and count as zero -/
def exactValue (x : Float) : ℚ :=
  match Binary64.ofFloat x with
  | .finite negative mant exp =>
    let (n, d) := Binary64.ratio mant exp
    (Binary64.signed negative n : ℚ) / d
  | _ => 0

instance : Scalar ℚ where
  ofScientific := OfScientific.ofScientific
  decideLt := inferInstance
  decideLe := inferInstance
  ofInt i := i
  ofFloat := exactValue
  toFloat q := Binary64.nearest (decide (q < 0)) q.num.natAbs q.den
  round q := Binary64.signed (decide (q < 0)) (Binary64.roundDiv q.num.natAbs q.den)

/-! ## counts of severities -/

section
variable (ss : List Severity)

/-- every finding has one of the four severities -/
theorem count_severities :
    ss.count .critical + ss.count .high + ss.count .medium + ss.count .low = ss.length := by
  induction ss with
  | nil => rfl
  | cons s ss ih => cases s <;> simp <;> omega

theorem points_eq : RiskProfile.points ss =
    25 * ss.count .critical + 15 * ss.count .high + 8 * ss.count .medium + 3 * ss.count .low := by
  induction ss with
  | nil => rfl
  | cons s ss ih =>
    unfold RiskProfile.points at ih ⊢
    rw [List.foldr_cons, ih]
    cases s <;> simp [Severity.points] <;> omega

end

/-! ## the score -/

theorem greater_eq_max (a b : ℚ) : Scalar.greater a b = max a b := by
  unfold Scalar.greater
  by_cases h : a < b
  · rw [if_pos h, max_eq_right h.le]
  · rw [if_neg h, max_eq_left (not_lt.mp h)]

theorem lesser_eq_min (a b : ℚ) : Scalar.lesser a b = min a b := by
  unfold Scalar.lesser
  by_cases h : b < a
  · rw [if_pos h, min_eq_right h.le]
  · rw [if_neg h, min_eq_left (not_lt.mp h)]

theorem sum_eq (xs : List ℚ) : Scalar.sum xs = xs.sum := List.sum_eq_foldl.symm

theorem isUnit_iff {x : ℚ} : isUnit x = true ↔ 0 ≤ x ∧ x ≤ 1 := by
  unfold isUnit
  rw [Bool.and_eq_true, decide_eq_true_iff, decide_eq_true_iff]
  show ((0 : ℤ) : ℚ) ≤ x ∧ x ≤ ((1 : ℤ) : ℚ) ↔ 0 ≤ x ∧ x ≤ 1
  rw [Int.cast_zero, Int.cast_one]

namespace RiskProfile

theorem escalationBound_eq : (escalationBound : ℚ) = 90 := by
  show (Rat.ofScientific 900 true 1 : ℚ) = 90
  norm_num

theorem scoreOf_nil : (scoreOf [] : ℚ) = 0 := by
  show (Rat.ofScientific 0 true 1 : ℚ) = 0
  norm_num

theorem scoreOf_eq {ss : List Severity} (h : ss ≠ []) :
    (scoreOf ss : ℚ) = max 0 (min 100 ((points ss : ℚ) / (ss.length * 25 : ℕ) * 100)) := by
  have hempty : ss.isEmpty = false := by simpa using h
  have h0 : (Rat.ofScientific 0 true 1 : ℚ) = 0 := by norm_num
  have h100 : (Rat.ofScientific 1000 true 1 : ℚ) = 100 := by norm_num
  unfold scoreOf
  simp only [hempty, Bool.false_eq_true, if_false]
  rw [greater_eq_max, lesser_eq_min]
  show max (Rat.ofScientific 0 true 1 : ℚ) (min (Rat.ofScientific 1000 true 1 : ℚ)
    (((points ss : ℤ) : ℚ) / ((ss.length * 25 : ℕ) : ℤ) * (100 : ℤ))) = _
  rw [h0, h100]
  push_cast
  rfl

/-- **When a scan is escalated**, by the counts of its findings -/
theorem needsEscalation_iff (ss : List Severity) :
    (ofSeverities ss : RiskProfile ℚ).needsEscalation = true ↔
      15 * ss.count .high + 29 * ss.count .medium + 39 * ss.count .low < 5 * ss.count .critical := by
  have hdef : (ofSeverities ss : RiskProfile ℚ).needsEscalation = true ↔ (90 : ℚ) < scoreOf ss := by
    rw [← escalationBound_eq]
    exact decide_eq_true_iff
  rw [hdef]
  by_cases h : ss = []
  · subst h
    rw [scoreOf_nil]
    norm_num
  · have hn : 0 < ss.length := List.length_pos_iff.mpr h
    have hpos : (0 : ℚ) < (ss.length * 25 : ℕ) := by exact_mod_cast (by omega : 0 < ss.length * 25)
    rw [scoreOf_eq h, lt_max_iff, lt_min_iff, div_mul_eq_mul_div, lt_div_iff₀ hpos]
    have hcast : (90 : ℚ) * (ss.length * 25 : ℕ) < points ss * 100 ↔
        90 * (ss.length * 25) < points ss * 100 := by exact_mod_cast Iff.rfl
    have htotal := count_severities ss
    rw [hcast, points_eq]
    constructor
    · rintro (h | ⟨_, h⟩)
      · exact absurd h (by norm_num)
      · omega
    · intro h
      exact .inr ⟨by norm_num, by omega⟩

end RiskProfile

end ContractRisk
