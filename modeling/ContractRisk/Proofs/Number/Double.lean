import ContractRisk.Finding.Synthesis
import Mathlib

/-!
# The order of doubles

Doubles that are numbers (infinities among them) are ordered like their `level`s, triples of whole
numbers compared from the left: first the sign with the two infinities at the ends, then exponent and
mantissa. So `<` is a linear order of levels away from NaN (`lt_iff_level`).

* `isNaN_mul`            a product of finite doubles is a number, if perhaps an infinite one;
* `isFinite_ofInt`       whole numbers from 0 to 100 are finite doubles;
* `isNaN_ruleRisk`, `isNaN_scaled`   so the risk scores of rules and of detectors are numbers.
-/

namespace ContractRisk.Double
open Float.Model Float.Model.UnpackedFloat

/-! ## levels -/

abbrev Level := ℤ ×ₗ ℤ ×ₗ ℤ

def levelOf : UnpackedFloat → Level
  | .infinity .negative => toLex (-2, toLex (0, 0))
  | .finite .negative m e _ => toLex (-1, toLex (-e, -m))
  | .zero _ => toLex (0, toLex (0, 0))
  | .finite .positive m e _ => toLex (1, toLex (e, m))
  | .infinity .positive => toLex (2, toLex (0, 0))
  | .notANumber => toLex (0, toLex (0, 0))

/-- the place of a double in the order; NaN has none of its own -/
def level (x : Float) : Level := levelOf x.toModel.unpack

private theorem then_eq_lt_iff (e f : Int) (m n : Nat) :
    (compare e f).then (compare m n) = .lt ↔ e < f ∨ e = f ∧ m < n := by
  rw [Ordering.then_eq_lt, compare_lt_iff_lt, compare_eq_iff_eq, compare_lt_iff_lt]

private theorem then_eq_gt_iff (e f : Int) (m n : Nat) :
    (compare e f).then (compare m n) = .gt ↔ f < e ∨ e = f ∧ n < m := by
  rw [Ordering.then_eq_gt, compare_gt_iff_gt, compare_eq_iff_eq, compare_gt_iff_gt]

theorem lt_iff_levelOf {a b : UnpackedFloat} (ha : a.isNaN = false) (hb : b.isNaN = false) :
    a.lt b = true ↔ levelOf a < levelOf b := by
  -- one case for each pair of kinds and signs; only two finite numbers of one sign need exponents
  rcases a with s | _ | s | ⟨s, m, e, hm⟩ <;> rcases b with t | _ | t | ⟨t, n, f, hn⟩ <;>
    simp only [UnpackedFloat.isNaN, Bool.true_eq_false] at ha hb <;>
    (try cases s) <;> (try cases t) <;>
    simp [UnpackedFloat.lt, UnpackedFloat.compare, levelOf, Prod.Lex.lt_iff, then_eq_lt_iff,
      then_eq_gt_iff]
  rfl

theorem lt_iff_unpack (x y : Float) : x < y ↔ x.toModel.unpack.lt y.toModel.unpack = true := by
  show decide (x.toModel < y.toModel) = true ↔ _
  rw [decide_eq_true_iff]
  rfl

theorem lt_iff_level {x y : Float} (hx : x.isNaN = false) (hy : y.isNaN = false) :
    x < y ↔ level x < level y := by
  rw [lt_iff_unpack, lt_iff_levelOf hx hy]
  rfl

/-- only numbers are compared -/
theorem isNaN_of_compare {a b : UnpackedFloat} {o : Ordering} (h : a.compare b = some o) :
    a.isNaN = false ∧ b.isNaN = false := by
  cases a <;> cases b <;> simp [UnpackedFloat.compare, UnpackedFloat.isNaN] at h ⊢

theorem isNaN_of_lt {x y : Float} (h : x < y) : x.isNaN = false ∧ y.isNaN = false :=
  isNaN_of_compare (eq_of_beq ((lt_iff_unpack x y).mp h))

theorem beq_self {x : Float} (h : x.isNaN = false) : (x == x) = true := by
  show x.toModel.unpack.beq x.toModel.unpack = true
  have h' : x.toModel.unpack.isNaN = false := h
  have hnan : x.toModel.unpack ≠ notANumber := by
    intro heq
    rw [heq] at h'
    exact nomatch h'
  exact (beq_iff_ne_notANumber_and_eq _ _).mpr ⟨hnan, hnan, .inl rfl⟩

theorem beq_of_isNaN {x : Float} (h : x.isNaN = true) (y : Float) : (x == y) = false := by
  show x.toModel.unpack.beq y.toModel.unpack = false
  have hnan : x.toModel.unpack = notANumber := isNaN_iff.mp h
  rw [hnan]
  rfl

/-! ## packing keeps numbers numbers -/

private theorem zero_ne_allOnes (S : Format) : (0#S.exponentBits) ≠ -1#_ := by
  rw [BitVec.neg_one_eq_allOnes]
  intro h
  have hz := congrArg BitVec.toNat h
  rw [BitVec.toNat_ofNat, Nat.zero_mod, BitVec.toNat_allOnes] at hz
  have hp : 1 < 2 ^ S.exponentBits := Nat.one_lt_two_pow (Nat.pos_iff_ne_zero.mp S.he)
  omega

private theorem isNaN_unpack_of_exponent (S : Format) (b : BitVec S.numBits)
    (h : unpackExponent b ≠ -1#_) : (UnpackedFloat.unpack S b).isNaN = false := by
  unfold UnpackedFloat.unpack
  simp only [h, if_false]
  split
  · split <;> rfl
  · rfl

private theorem isNaN_packedInfinity (S : Format) (s : Sign) :
    (UnpackedFloat.unpack S (packedInfinity S s)).isNaN = false := by
  simp [UnpackedFloat.unpack, packedInfinity, UnpackedFloat.isNaN]

theorem isNaN_unpack_pack (S : Format) {f : UnpackedFloat} (h : f.isNaN = false) :
    (UnpackedFloat.unpack S (UnpackedFloat.pack S f)).isNaN = false := by
  cases f with
  | notANumber => exact absurd h (by simp [UnpackedFloat.isNaN])
  | infinity s => exact isNaN_packedInfinity S s
  | zero s =>
    apply isNaN_unpack_of_exponent
    rw [UnpackedFloat.pack, packedZero, unpackExponent_packComponents]
    exact zero_ne_allOnes S
  | finite s m e hm =>
    simp only [UnpackedFloat.pack]
    split
    · exact isNaN_packedInfinity S s
    · next hsmall =>
      split
      · apply isNaN_unpack_of_exponent
        rw [unpackExponent_packComponents, BitVec.neg_one_eq_allOnes]
        intro he
        have hn := congrArg BitVec.toNat he
        rw [BitVec.toNat_ofNat, BitVec.toNat_allOnes, Nat.mod_eq_of_lt (by omega)] at hn
        omega
      · apply isNaN_unpack_of_exponent
        rw [unpackExponent_packComponents]
        exact zero_ne_allOnes S

/-! ## products -/

private theorem isNaN_roundWithAccuracy (S : Format) (s : Sign) (m : Nat) (e : Int) (r : Accuracy) :
    (roundWithAccuracy S s m e r).isNaN = false := by
  unfold roundWithAccuracy
  dsimp only
  split <;> rfl

private theorem isNaN_unpackedMul (S : Format) {a b : UnpackedFloat} (ha : a.isFinite)
    (hb : b.isFinite) : (UnpackedFloat.mul S a b).isNaN = false := by
  cases a <;> cases b <;> simp only [UnpackedFloat.isFinite, Bool.false_eq_true] at ha hb
  · rfl
  · rfl
  · rfl
  · exact isNaN_roundWithAccuracy ..

/-- the product of two finite doubles is a number -/
theorem isNaN_mul {x y : Float} (hx : x.isFinite) (hy : y.isFinite) : (x * y).isNaN = false :=
  isNaN_unpack_pack _ (isNaN_unpackedMul _ hx hy)

theorem isFinite_percent : ∀ n : Fin 101, (Binary64.ofInt n).isFinite := by decide +kernel

theorem isFinite_ofInt {i : Int} (h0 : 0 ≤ i) (h100 : i ≤ 100) : (Binary64.ofInt i).isFinite := by
  have h := isFinite_percent ⟨i.toNat, by omega⟩
  rwa [show ((⟨i.toNat, by omega⟩ : Fin 101) : Int) = i from Int.toNat_of_nonneg h0] at h

theorem isFinite_weight (s : Severity) : (s.weight : Float).isFinite := by
  cases s <;> decide +kernel

/-- the risk score of a rule is a number -/
theorem isNaN_ruleRisk {c : Int} (h0 : 0 ≤ c) (h100 : c ≤ 100) (s : Severity) :
    (ruleRisk c s : Float).isNaN = false :=
  isNaN_mul (isFinite_ofInt h0 h100) (isFinite_weight s)

/-- the risk score of a detector's finding is a number if the scale of the detector is finite -/
theorem isNaN_scaled (x : Float) {scale : Float} (h : scale.isFinite) :
    (Scalar.ofInt (Finding.percentage x) * scale : Float).isNaN = false :=
  isNaN_mul (isFinite_ofInt (by unfold Finding.percentage; omega)
    (by unfold Finding.percentage; omega)) h

/-- the composite score is a number, whatever it is made from -/
theorem isNaN_scoreOf (ss : List Severity) : (RiskProfile.scoreOf ss : Float).isNaN = false := by
  have hzero : ((0.0 : Float)).isNaN = false := by decide +kernel
  unfold RiskProfile.scoreOf
  split
  · exact hzero
  · unfold Scalar.greater
    dsimp only
    split
    · next h => exact (isNaN_of_lt h).2
    · exact hzero

end ContractRisk.Double
