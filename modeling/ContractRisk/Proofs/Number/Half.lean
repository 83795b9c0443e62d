import ContractRisk.Proofs.Number.Whole

/-!
# The share of a half

Rounding is monotone, and a half is a double. So a quotient of whole numbers that is no more than a half as a
fraction is no more than a half as a double either, even if the numbers are too large to be exact:

* `upToHalf_round`      what is less than a half is rounded to at most a half, which its exponent shows;
* `Halves.upToHalf_div` so are quotients, where twice the first number is at most the second one;
* `not_half_lt_ratio`   whole numbers keep this relation as doubles.
-/

namespace ContractRisk

namespace Double

open Float.Model Float.Model.UnpackedFloat

/-! ## rounding -/

theorem mantissa_shiftRight (em : ExtendedMantissa) (n : ℕ) : (em >>> n).mantissa = em.mantissa / 2 ^ n := by
  show (n.repeat ExtendedMantissa.shiftRightOne em).mantissa = _
  induction n with
  | zero => exact (Nat.div_one _).symm
  | succ n ih =>
    show (n.repeat ExtendedMantissa.shiftRightOne em).mantissa / 2 = _
    rw [ih, Nat.div_div_eq_div_mul, Nat.pow_succ]

theorem roundedMantissa_le (em : ExtendedMantissa) : em.roundedMantissa ≤ em.mantissa + 1 := by
  unfold ExtendedMantissa.roundedMantissa Accuracy.roundToNearestEven
  split <;> omega

/-- the exponent of a rounded number -/
theorem shift_exponent (m : ℕ) (e : ℤ) (acc : Accuracy) :
    (shiftToTargetExponent .binary64 m e acc).2 = max e (max (m.log2 + e - 52) (-1074)) := by
  have htarget : Format.binary64.targetExponent (totalExponent m e) = max (m.log2 + e - 52) (-1074) := by
    show max ((m.log2 : ℤ) + 1 + e - 53) (-1074) = _
    congr 1
    omega
  unfold shiftToTargetExponent shiftToExponent
  dsimp only
  rw [htarget]
  omega

theorem shift_mantissa (m : ℕ) (e : ℤ) (acc : Accuracy) :
    (shiftToTargetExponent .binary64 m e acc).1.mantissa =
      m / 2 ^ ((shiftToTargetExponent .binary64 m e acc).2 - e).toNat := by
  have hinit : (ExtendedMantissa.ofMantissaAndAccuracy m acc).mantissa = m := by
    unfold ExtendedMantissa.ofMantissaAndAccuracy
    split <;> rfl
  unfold shiftToTargetExponent shiftToExponent
  dsimp only
  rw [mantissa_shiftRight, hinit]
  congr 2
  omega

/-- what is less than a half by its last place stays so when places are dropped -/
theorem shift_lt_half {m : ℕ} {e : ℤ} (he : e ≤ -54) (hm : m < 2 ^ (-1 - e).toNat) (acc : Accuracy) :
    (shiftToTargetExponent .binary64 m e acc).2 ≤ -54 ∧
      (shiftToTargetExponent .binary64 m e acc).1.mantissa <
        2 ^ (-1 - (shiftToTargetExponent .binary64 m e acc).2).toNat := by
  have hlog : (m.log2 : ℤ) ≤ -2 - e := by
    by_cases h0 : m = 0
    · subst h0
      have hzero : Nat.log2 0 = 0 := rfl
      omega
    · have := (Nat.log2_lt h0).mpr hm
      omega
  rw [shift_mantissa]
  have hexp := shift_exponent m e acc
  generalize (shiftToTargetExponent .binary64 m e acc).2 = f at hexp ⊢
  have hle : f ≤ -54 := by omega
  refine ⟨hle, ?_⟩
  rw [Nat.div_lt_iff_lt_mul (Nat.two_pow_pos _), ← Nat.pow_add]
  have hsum : (-1 - f).toNat + (f - e).toNat = (-1 - e).toNat := by omega
  rwa [hsum]

/-- a double that is no number, zero, or positive and at most a half -/
def UpToHalf : UnpackedFloat → Prop
  | .notANumber | .zero _ => True
  | .finite .positive m e _ => e ≤ -54 ∨ e = -53 ∧ m = 2 ^ 52
  | _ => False

theorem upToHalf_round {m : ℕ} {e : ℤ} (he : e ≤ -54) (hm : m < 2 ^ (-1 - e).toNat) (acc : Accuracy) :
    UpToHalf (roundWithAccuracy .binary64 .positive m e acc) := by
  unfold roundWithAccuracy
  obtain ⟨he', hm'⟩ := shift_lt_half he hm acc
  have hr := roundedMantissa_le (shiftToTargetExponent .binary64 m e acc).1
  generalize shiftToTargetExponent .binary64 m e acc = shifted at he' hm' hr ⊢
  obtain ⟨em, f⟩ := shifted
  dsimp only at he' hm' hr ⊢
  generalize em.roundedMantissa = r at hr ⊢
  -- the rounded mantissa is still below a half, or is a half and loses all its places
  rcases Nat.lt_or_ge r (2 ^ (-1 - f).toNat) with hlt | hge
  · obtain ⟨hlow, _⟩ := shift_lt_half he' hlt .exact
    split
    · trivial
    · exact .inl hlow
  · obtain rfl : r = 2 ^ (-1 - f).toNat := by omega
    have hexp := shift_exponent (2 ^ (-1 - f).toNat) f .exact
    rw [Nat.log2_two_pow] at hexp
    have hhalf : (shiftToTargetExponent .binary64 (2 ^ (-1 - f).toNat) f .exact).2 = -53 := by omega
    have hmant := shift_mantissa (2 ^ (-1 - f).toNat) f .exact
    have hplaces : (-1 - f).toNat - (-53 - f).toNat = 52 := by omega
    rw [hhalf, Nat.pow_div (by omega) Nat.two_pos, hplaces] at hmant
    split
    · trivial
    · exact .inr ⟨hhalf, hmant⟩

/-! ## quotients -/

/-- twice the first number is at most the second one; both have 53 bits -/
structure Halves (m₁ : ℕ) (e₁ : ℤ) (m₂ : ℕ) (e₂ : ℤ) : Prop where
  bits₁ : 2 ^ 52 ≤ m₁ ∧ m₁ < 2 ^ 53
  bits₂ : 2 ^ 52 ≤ m₂ ∧ m₂ < 2 ^ 53
  range : -1074 ≤ e₁ - e₂
  le : e₁ + 1 < e₂ ∨ e₁ + 1 = e₂ ∧ m₁ ≤ m₂

section
variable {m₁ m₂ : ℕ} {e₁ e₂ : ℤ}

theorem log2_of_bits {m : ℕ} (h : 2 ^ 52 ≤ m ∧ m < 2 ^ 53) : m.log2 = 52 :=
  (Nat.log2_eq_iff (by omega)).mpr h

/-- the exponent of the quotient before it is rounded -/
theorem Halves.divCore_eq (h : Halves m₁ e₁ m₂ e₂) :
    ∃ t : ℤ, t ≤ -54 ∧ (e₁ - e₂ = -1 → t = -54) ∧ t ≤ e₁ - e₂ ∧ divCore .binary64 m₁ e₁ m₂ e₂ =
      (m₁ <<< (e₁ - e₂ - t).toNat / m₂, t, accuracyOfFraction (m₁ <<< (e₁ - e₂ - t).toNat % m₂) m₂) := by
  have hrange := h.range
  have hle : e₁ - e₂ ≤ -1 := by
    rcases h.le with h | h <;> omega
  have htarget : Format.binary64.targetExponent (totalExponent m₁ e₁ - totalExponent m₂ e₂) =
      max (e₁ - e₂ - 53) (-1074) := by
    unfold totalExponent
    rw [log2_of_bits h.bits₁, log2_of_bits h.bits₂]
    show max (_ - 53) (-1074) = _
    congr 2
    omega
  refine ⟨_, ?_, ?_, ?_, rfl⟩ <;> rw [htarget] <;> omega

/-- a quotient of at most a half is rounded to at most a half -/
theorem Halves.upToHalf_div (h : Halves m₁ e₁ m₂ e₂) {h₁ : 0 < m₁} {h₂ : 0 < m₂} :
    UpToHalf (UnpackedFloat.div .binary64 (.finite .positive m₁ e₁ h₁) (.finite .positive m₂ e₂ h₂)) := by
  obtain ⟨t, ht, hclose, hle, hcore⟩ := h.divCore_eq
  show UpToHalf (roundWithAccuracy .binary64 .positive (divCore .binary64 m₁ e₁ m₂ e₂).1
    (divCore .binary64 m₁ e₁ m₂ e₂).2.1 (divCore .binary64 m₁ e₁ m₂ e₂).2.2)
  rw [hcore]
  dsimp only
  by_cases heq : e₁ + 1 = e₂ ∧ m₁ = m₂
  · -- the quotient is exactly a half
    obtain ⟨rfl, rfl⟩ := heq
    obtain rfl := hclose (by omega)
    have hshift : (e₁ - (e₁ + 1) - -54).toNat = 53 := by omega
    rw [hshift, Nat.shiftLeft_eq, Nat.mul_div_cancel_left _ h₁, Nat.mul_mod_right]
    have hexact : accuracyOfFraction 0 m₁ = .exact := if_pos rfl
    have hround : roundWithAccuracy .binary64 .positive (2 ^ 53) (-54) .exact =
        .finite .positive (2 ^ 52) (-53) (Nat.two_pow_pos 52) := by rfl
    rw [hexact, hround]
    exact Or.inr ⟨rfl, rfl⟩
  · refine upToHalf_round ht ?_ _
    have hpow : 2 ^ (-1 - t).toNat = 2 ^ (e₂ - e₁ - 1).toNat * 2 ^ (e₁ - e₂ - t).toNat := by
      have hle := h.le
      rw [← Nat.pow_add]
      congr 1
      omega
    have hlt : m₁ < 2 ^ (e₂ - e₁ - 1).toNat * m₂ := by
      have hbits₁ := h.bits₁
      have hbits₂ := h.bits₂
      rcases h.le with hfar | ⟨hnear, hm⟩
      · have htwo : 2 * m₂ ≤ 2 ^ (e₂ - e₁ - 1).toNat * m₂ :=
          Nat.mul_le_mul_right m₂ (Nat.le_pow (by omega))
        omega
      · have hone : (e₂ - e₁ - 1).toNat = 0 := by omega
        rw [hone, Nat.pow_zero, Nat.one_mul]
        omega
    rw [Nat.div_lt_iff_lt_mul h₂, Nat.shiftLeft_eq, hpow, Nat.mul_right_comm]
    exact Nat.mul_lt_mul_of_pos_right hlt (Nat.two_pow_pos _)

end

/-! ## doubles -/

/-- what is packed with an exponent field below that of a half is read back as at most a half -/
theorem upToHalf_unpack {b : BitVec Format.binary64.numBits} (hsign : unpackSign b = 0#1)
    (hexp : (unpackExponent b).toNat ≤ 1021 ∨ (unpackExponent b).toNat = 1022 ∧ unpackMantissa b = 0#52) :
    UpToHalf (UnpackedFloat.unpack .binary64 b) := by
  have hmax : unpackExponent b ≠ -1#_ := by
    intro hmax
    rw [hmax] at hexp
    have h2047 : (-1#_ : BitVec Format.binary64.exponentBits).toNat = 2047 := rfl
    omega
  have hbias : ((Format.binary64.exponentBias : ℕ) : ℤ) = 1023 := rfl
  unfold UnpackedFloat.unpack
  dsimp only
  rw [if_neg hmax, hsign, hbias]
  split
  · next hzero =>
    rw [hzero]
    split
    · trivial
    · exact Or.inl (by decide)
  · rcases hexp with hlow | ⟨hhalf, hmant⟩
    · refine Or.inl ?_
      push_cast
      omega
    · refine Or.inr ⟨by rw [hhalf]; rfl, ?_⟩
      rw [hmant]
      rfl

/-- packing loses nothing of what is at most a half -/
theorem upToHalf_pack {u : UnpackedFloat} (h : UpToHalf u) :
    UpToHalf (UnpackedFloat.unpack .binary64 (UnpackedFloat.pack .binary64 u)) := by
  cases u with
  | notANumber =>
    show UpToHalf (UnpackedFloat.unpack _ (packedNaN _))
    rw [unpack_packedNaN]
    trivial
  | infinity s => exact h.elim
  | zero s =>
    show UpToHalf (UnpackedFloat.unpack _ (packedZero _ _))
    rw [unpack_packedZero]
    trivial
  | finite s m e hm =>
    cases s with
    | negative => exact h.elim
    | positive =>
      have hbias : ((Format.binary64.exponentBias : ℕ) : ℤ) = 1023 := rfl
      unfold UnpackedFloat.pack
      dsimp only
      rw [hbias]
      generalize hbiased : (e + 1023 + ((52 : ℕ) : ℤ)).toNat = biased
      have hle : biased ≤ 1022 := by
        rcases h with h | ⟨rfl, _⟩ <;> omega
      have hfield : (BitVec.ofNat 11 biased).toNat = biased := by
        rw [BitVec.toNat_ofNat]
        omega
      rw [if_neg (by omega)]
      split
      · refine upToHalf_unpack (unpackSign_packComponents ..) ?_
        rw [unpackExponent_packComponents, unpackMantissa_packComponents]
        rcases h with h | ⟨rfl, rfl⟩
        · exact .inl (by rw [hfield]; omega)
        · exact .inr ⟨by rw [hfield]; omega, rfl⟩
      · refine upToHalf_unpack (unpackSign_packComponents ..) (.inl ?_)
        rw [unpackExponent_packComponents]
        exact Nat.zero_le _

theorem not_half_lt {x : Float} (h : UpToHalf x.toModel.unpack) : ¬ (0.5 : Float) < x := by
  intro hlt
  obtain ⟨hhalf, hx⟩ := isNaN_of_lt hlt
  rw [lt_iff_level hhalf hx] at hlt
  have hlevel : level (0.5 : Float) = toLex (1, toLex (-53, 2 ^ 52)) := by rfl
  have hx : x.toModel.unpack.isNaN = false := hx
  rw [hlevel] at hlt
  unfold level at hlt
  generalize x.toModel.unpack = u at h hlt hx
  cases u with
  | notANumber => exact nomatch hx
  | infinity s => exact h
  | zero s => simp [levelOf, Prod.Lex.toLex_lt_toLex] at hlt
  | finite s m e hm =>
    cases s with
    | negative => exact h
    | positive =>
      simp only [levelOf, Prod.Lex.toLex_lt_toLex, lt_self_iff_false, false_or, true_and] at hlt
      rcases h with h | ⟨rfl, rfl⟩
      · omega
      · omega

/-! ## whole numbers -/

/-- the doubles of two finite whole numbers, the one at most half of the other -/
theorem halves_wholeBits {k n : ℕ} (hk : k ≠ 0) (h : 2 * k ≤ n)
    (hfin : Binary64.wholeBits n < 2047 * 2 ^ 52) :
    Halves (2 ^ 52 + Binary64.wholeBits k % 2 ^ 52) ((Binary64.wholeBits k / 2 ^ 52 : ℕ) - 1075)
      (2 ^ 52 + Binary64.wholeBits n % 2 ^ 52) ((Binary64.wholeBits n / 2 ^ 52 : ℕ) - 1075) := by
  have hdouble := Binary64.wholeBits_double hk h
  have hlow : 1022 * 2 ^ 52 ≤ Binary64.wholeBits k := by
    unfold Binary64.wholeBits
    omega
  exact {
    bits₁ := by omega
    bits₂ := by omega
    range := by omega
    le := by omega }

theorem not_half_lt_ratio {k n : ℕ} (h : 2 * k ≤ n) :
    ¬ (0.5 : Float) < Binary64.ofInt k / Binary64.ofInt n := by
  apply not_half_lt
  show UpToHalf (UnpackedFloat.unpack .binary64 (UnpackedFloat.pack .binary64
    (UnpackedFloat.div .binary64 (Binary64.ofInt k).toModel.unpack (Binary64.ofInt n).toModel.unpack)))
  apply upToHalf_pack
  by_cases hk : k = 0
  · subst hk
    have hzero : (Binary64.ofInt (0 : ℕ)).toModel.unpack = .zero .positive := by rfl
    rw [hzero]
    cases (Binary64.ofInt n).toModel.unpack <;> trivial
  · have hdouble := Binary64.wholeBits_double hk h
    rcases unpack_ofInt hk with ⟨hbig, hinf⟩ | ⟨hsmall, h₁, hfinite⟩
    · -- the greater number is infinite with the lesser one
      rcases unpack_ofInt (k := n) (by omega) with ⟨_, hinf'⟩ | ⟨hsmall', _⟩
      · rw [hinf, hinf']
        trivial
      · omega
    · rcases unpack_ofInt (k := n) (by omega) with ⟨_, hinf'⟩ | ⟨hsmall', h₂, hfinite'⟩
      · rw [hfinite, hinf']
        trivial
      · rw [hfinite, hfinite']
        exact (halves_wholeBits hk h hsmall').upToHalf_div

end Double

end ContractRisk
