import Mathlib
import ContractRisk.Proofs.Number.Double

/-!
# Whole numbers as doubles

The bits of a whole number are its exponent and a significand of 53 bits, as they come of the quotient that is
rounded to the nearest one (`nearestBits_one`). So the bits grow with the numbers, by one in the exponent where
a number is doubled (`wholeBits_double`), and `unpack_ofInt` reads exponent and significand back.
-/

namespace ContractRisk

namespace Binary64

/-! ## rounded quotients -/

theorem roundDiv_cases (n d : ℕ) :
    2 * (n % d) < d ∧ roundDiv n d = n / d ∨ d < 2 * (n % d) ∧ roundDiv n d = n / d + 1 ∨
      2 * (n % d) = d ∧ roundDiv n d = n / d + n / d % 2 := by
  unfold roundDiv
  dsimp only
  rcases Nat.lt_trichotomy (2 * (n % d)) d with h | h | h
  · exact .inl ⟨h, if_pos h⟩
  · refine .inr (.inr ⟨h, ?_⟩)
    rw [if_neg (by omega), if_neg (by omega)]
    split <;> omega
  · refine .inr (.inl ⟨h, ?_⟩)
    rw [if_neg (by omega), if_pos h]

theorem le_roundDiv (n d : ℕ) : n / d ≤ roundDiv n d := by
  rcases roundDiv_cases n d with ⟨_, h⟩ | ⟨_, h⟩ | ⟨_, h⟩ <;> omega

theorem roundDiv_le (n d : ℕ) : roundDiv n d ≤ n / d + 1 := by
  rcases roundDiv_cases n d with ⟨_, h⟩ | ⟨_, h⟩ | ⟨_, h⟩ <;> omega

theorem roundDiv_mono {n n' : ℕ} (d : ℕ) (h : n ≤ n') : roundDiv n d ≤ roundDiv n' d := by
  have hq : n / d ≤ n' / d := Nat.div_le_div_right h
  rcases hq.lt_or_eq with hlt | heq
  · exact (roundDiv_le n d).trans (hlt.trans_le (le_roundDiv n' d))
  · -- in one step of the quotient the remainders are in order
    have hn := Nat.div_add_mod n d
    have hn' := Nat.div_add_mod n' d
    rw [heq] at hn
    have hr : n % d ≤ n' % d := by omega
    rcases roundDiv_cases n d with ⟨_, h⟩ | ⟨_, h⟩ | ⟨_, h⟩ <;>
      rcases roundDiv_cases n' d with ⟨_, h'⟩ | ⟨_, h'⟩ | ⟨_, h'⟩ <;> rw [h, h', heq] <;> omega

theorem roundDiv_double (n d : ℕ) : roundDiv (2 * n) (2 * d) = roundDiv n d := by
  have hcases := roundDiv_cases (2 * n) (2 * d)
  rw [Nat.mul_div_mul_left _ _ Nat.two_pos, Nat.mul_mod_mul_left] at hcases
  rcases hcases with ⟨_, h⟩ | ⟨_, h⟩ | ⟨_, h⟩ <;>
    rcases roundDiv_cases n d with ⟨_, h'⟩ | ⟨_, h'⟩ | ⟨_, h'⟩ <;> rw [h, h'] <;> omega

/-! ## whole numbers -/

/-- the significand of a whole number, rounded to 53 bits -/
def significand (k : ℕ) : ℕ := roundDiv (k * 2 ^ (52 - k.log2)) (2 ^ (k.log2 - 52))

theorem scaled_log2 {k : ℕ} (hk : k ≠ 0) :
    2 ^ 52 * 2 ^ (k.log2 - 52) ≤ k * 2 ^ (52 - k.log2) ∧
      k * 2 ^ (52 - k.log2) < 2 ^ 53 * 2 ^ (k.log2 - 52) := by
  have hpow : ∀ b, 2 ^ (k.log2 + b) * 2 ^ (52 - k.log2) = 2 ^ (52 + b) * 2 ^ (k.log2 - 52) := by
    intro b
    rw [← Nat.pow_add, ← Nat.pow_add]
    congr 1
    omega
  have hlow := hpow 0
  have hhigh := hpow 1
  constructor
  · rw [← hlow]
    exact Nat.mul_le_mul_right _ (Nat.log2_self_le hk)
  · rw [← hhigh]
    exact Nat.mul_lt_mul_of_pos_right Nat.lt_log2_self (Nat.two_pow_pos _)

theorem significand_bounds {k : ℕ} (hk : k ≠ 0) : 2 ^ 52 ≤ significand k ∧ significand k ≤ 2 ^ 53 := by
  obtain ⟨hlow, hhigh⟩ := scaled_log2 hk
  have hpos : 0 < 2 ^ (k.log2 - 52) := Nat.two_pow_pos _
  have hge : 2 ^ 52 ≤ k * 2 ^ (52 - k.log2) / 2 ^ (k.log2 - 52) := (Nat.le_div_iff_mul_le hpos).mpr hlow
  have hlt : k * 2 ^ (52 - k.log2) / 2 ^ (k.log2 - 52) < 2 ^ 53 := (Nat.div_lt_iff_lt_mul hpos).mpr hhigh
  exact ⟨hge.trans (le_roundDiv _ _), (roundDiv_le _ _).trans hlt⟩

/-- the bits of a whole number, if the exponents had no end -/
def wholeBits (k : ℕ) : ℕ := (k.log2 + 1022) * 2 ^ 52 + significand k

theorem scaled_one (k : ℕ) :
    scaled k 1 ((k.log2 : ℤ) - 52) = (k * 2 ^ (52 - k.log2), 2 ^ (k.log2 - 52)) := by
  have hneg : (-((k.log2 : ℤ) - 52)).toNat = 52 - k.log2 := by omega
  have hpos : ((k.log2 : ℤ) - 52).toNat = k.log2 - 52 := by omega
  unfold scaled
  rw [hneg, hpos, Nat.one_mul]

theorem exponentFor_one {k : ℕ} (hk : k ≠ 0) : exponentFor k 1 = (k.log2 : ℤ) - 52 := by
  have hlog : (k.log2 : ℤ) - ((1 : ℕ).log2 : ℕ) - 52 = (k.log2 : ℤ) - 52 := by
    rw [show (1 : ℕ).log2 = 0 by decide, Nat.cast_zero, sub_zero]
  have hnot : ¬ k * 2 ^ (52 - k.log2) < 2 ^ 52 * 2 ^ (k.log2 - 52) := not_lt.mpr (scaled_log2 hk).1
  unfold exponentFor
  rw [hlog]
  dsimp only
  rw [scaled_one]
  dsimp only
  rw [if_neg hnot]
  omega

theorem nearestBits_one {k : ℕ} (hk : k ≠ 0) : nearestBits k 1 = min (wholeBits k) (2047 * 2 ^ 52) := by
  have hexp : ((k.log2 : ℤ) - 52 + 1074).toNat = k.log2 + 1022 := by omega
  unfold nearestBits
  rw [if_neg hk, exponentFor_one hk]
  dsimp only
  rw [scaled_one]
  dsimp only
  rw [hexp]
  rfl

/-- a number and its double have the same significand, so that greater ones have no lesser -/
theorem significand_mono {k n : ℕ} (h : 2 * k ≤ n) (hlog : k.log2 + 1 = n.log2) :
    significand k ≤ significand n := by
  unfold significand
  rw [← hlog]
  rcases Nat.lt_or_ge k.log2 52 with hsmall | hlarge
  · have hscale : 52 - k.log2 = 52 - (k.log2 + 1) + 1 := by omega
    have hexact : k.log2 - 52 = 0 ∧ k.log2 + 1 - 52 = 0 := by omega
    rw [hexact.1, hexact.2, hscale, Nat.pow_succ', ← Nat.mul_assoc, Nat.mul_comm k 2]
    exact roundDiv_mono _ (Nat.mul_le_mul_right _ h)
  · have hscale : k.log2 + 1 - 52 = k.log2 - 52 + 1 := by omega
    have hexact : 52 - k.log2 = 0 ∧ 52 - (k.log2 + 1) = 0 := by omega
    rw [hexact.1, hexact.2, hscale, Nat.pow_succ', ← roundDiv_double (k * 2 ^ 0), ← Nat.mul_assoc]
    exact roundDiv_mono _ (Nat.mul_le_mul_right _ h)

/-- twice a number has an exponent that is greater by one -/
theorem wholeBits_double {k n : ℕ} (hk : k ≠ 0) (h : 2 * k ≤ n) : wholeBits k + 2 ^ 52 ≤ wholeBits n := by
  have hn : n ≠ 0 := by omega
  have hlog : k.log2 + 1 ≤ n.log2 := by
    rw [Nat.le_log2 hn, Nat.pow_succ]
    have hself := Nat.log2_self_le hk
    omega
  obtain ⟨_, hle⟩ := significand_bounds hk
  obtain ⟨hge, _⟩ := significand_bounds hn
  unfold wholeBits
  rcases hlog.lt_or_eq with hlt | heq
  · omega
  · have hmono := significand_mono h heq
    omega

end Binary64

namespace Double

open Float.Model Float.Model.UnpackedFloat Binary64

/-! ## doubles from bits -/

/-- the bits of a positive double -/
def word (B : ℕ) : BitVec Format.binary64.numBits := BitVec.ofNat 64 B

section
variable {B : ℕ}

private theorem exponent_word (hB : B ≤ 2047 * 2 ^ 52) :
    (unpackExponent (word B)).toNat = B / 2 ^ 52 := by
  rw [unpackExponent_def, BitVec.extractLsb'_toNat]
  show (BitVec.ofNat 64 B).toNat >>> 52 % 2 ^ 11 = _
  rw [BitVec.toNat_ofNat, Nat.shiftRight_eq_div_pow]
  omega

private theorem mantissa_word (B : ℕ) :
    (unpackMantissa (word B)).toNat = B % 2 ^ 52 := by
  rw [unpackMantissa_def, BitVec.extractLsb'_toNat]
  show (BitVec.ofNat 64 B).toNat >>> 0 % 2 ^ 52 = _
  rw [BitVec.toNat_ofNat, Nat.shiftRight_zero]
  omega

private theorem sign_word (hB : B ≤ 2047 * 2 ^ 52) :
    unpackSign (word B) = 0#1 := by
  apply BitVec.eq_of_toNat_eq
  rw [unpackSign_def, BitVec.extractLsb'_toNat]
  show (BitVec.ofNat 64 B).toNat >>> 63 % 2 ^ 1 = 0
  rw [BitVec.toNat_ofNat, Nat.shiftRight_eq_div_pow]
  omega

private theorem not_isNaNBits (hB : B ≤ 2047 * 2 ^ 52) : isNaNBits (word B) = false := by
  unfold isNaNBits
  rw [decide_eq_false_iff_not, not_and_not_right]
  intro hmax
  have hexp := congrArg BitVec.toNat hmax
  rw [exponent_word hB] at hexp
  have hinf : B = 2047 * 2 ^ 52 := by
    have h2047 : (-1#_ : BitVec Format.binary64.exponentBits).toNat = 2047 := rfl
    omega
  apply BitVec.eq_of_toNat_eq
  rw [mantissa_word, hinf]
  rfl

/-- a double is read back from its bits -/
theorem unpack_ofBits (hB : B ≤ 2047 * 2 ^ 52) :
    (Float.ofBits (.ofNat B)).toModel.unpack = UnpackedFloat.unpack Format.binary64 (word B) := by
  show UnpackedFloat.unpack Format.binary64 (UnpackedFloat.pack Format.binary64
    (UnpackedFloat.unpack Format.binary64 (word B))) = _
  rw [pack_unpack, not_isNaNBits hB]
  rfl

private theorem exists_finite_eq {s s' : Sign} {m m' : ℕ} {e e' : ℤ} {hm : 0 < m} (hs : s = s')
    (hmant : m = m') (he : e = e') :
    ∃ hm', UnpackedFloat.finite s m e hm = .finite s' m' e' hm' := by
  subst hs hmant he
  exact ⟨hm, rfl⟩

theorem unpack_normal (h0 : 2 ^ 52 ≤ B) (h1 : B < 2047 * 2 ^ 52) :
    ∃ hm, UnpackedFloat.unpack Format.binary64 (word B) =
      .finite .positive (2 ^ 52 + B % 2 ^ 52) ((B / 2 ^ 52 : ℕ) - 1075) hm := by
  have hexp := exponent_word h1.le
  have hnormal : unpackExponent (word B) ≠ -1#_ ∧ unpackExponent (word B) ≠ 0#_ := by
    constructor
    · intro hmax
      rw [hmax] at hexp
      have h2047 : (-1#_ : BitVec Format.binary64.exponentBits).toNat = 2047 := rfl
      omega
    · intro hzero
      rw [hzero] at hexp
      have h0' : (0#_ : BitVec Format.binary64.exponentBits).toNat = 0 := rfl
      omega
  unfold UnpackedFloat.unpack
  dsimp only
  rw [if_neg hnormal.1, if_neg hnormal.2]
  refine exists_finite_eq ?_ ?_ ?_
  · rw [sign_word h1.le]
    rfl
  · have hlt : (unpackMantissa (word B)).toNat < 2 ^ 52 := (unpackMantissa (word B)).isLt
    have hor := Nat.two_pow_add_eq_or_of_lt hlt 1
    rw [Nat.mul_one] at hor
    rw [BitVec.toNat_append, ← mantissa_word, hor]
    rfl
  · rw [hexp]
    rfl

theorem unpack_infinity : UnpackedFloat.unpack Format.binary64 (word (2047 * 2 ^ 52)) =
    .infinity .positive := by
  rfl

end

/-- a whole number is infinite as a double, or a significand with an exponent -/
theorem unpack_ofInt {k : ℕ} (hk : k ≠ 0) :
    (2047 * 2 ^ 52 ≤ wholeBits k ∧ (Binary64.ofInt k).toModel.unpack = .infinity .positive) ∨
      (wholeBits k < 2047 * 2 ^ 52 ∧ ∃ hm, (Binary64.ofInt k).toModel.unpack =
        .finite .positive (2 ^ 52 + wholeBits k % 2 ^ 52) ((wholeBits k / 2 ^ 52 : ℕ) - 1075) hm) := by
  have hbits : Binary64.ofInt k = Float.ofBits (.ofNat (min (wholeBits k) (2047 * 2 ^ 52))) := by
    rw [← nearestBits_one hk]
    unfold Binary64.ofInt nearest
    rw [decide_eq_false (not_lt.mpr (Int.natCast_nonneg k))]
    rfl
  rw [hbits, unpack_ofBits (min_le_right _ _)]
  rcases Nat.lt_or_ge (wholeBits k) (2047 * 2 ^ 52) with hlt | hge
  · have hnormal : 2 ^ 52 ≤ wholeBits k := by
      unfold wholeBits
      omega
    rw [min_eq_left hlt.le]
    exact .inr ⟨hlt, unpack_normal hnormal hlt⟩
  · rw [min_eq_right hge]
    exact .inl ⟨hge, unpack_infinity⟩

end Double

end ContractRisk
