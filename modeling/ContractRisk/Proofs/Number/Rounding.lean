import ContractRisk.Proofs.Number.Half

/-!
# Rounding beside a double

A result is rounded to the nearest double, so it stays below a double if it lies below the middle between
that one and its lower neighbour, and it stays at or above a power of two. Both are read off the exponent and
the mantissa of the result, which packing keeps.

* `round_cases`     what is rounded has at most 53 bits, or is a power of two with the next exponent;
* `below_round`     below the middle under a double, the result is below the double;
* `aloft_round`     from a power of two on, the result is no less than it.
-/

namespace ContractRisk.Double

open Float.Model Float.Model.UnpackedFloat

/-! ## rounded mantissas -/

theorem le_roundedMantissa (em : ExtendedMantissa) : em.mantissa ≤ em.roundedMantissa := by
  unfold ExtendedMantissa.roundedMantissa Accuracy.roundToNearestEven
  split <;> omega

theorem roundedMantissa_le_roundBit (em : ExtendedMantissa) :
    em.roundedMantissa ≤ em.mantissa + em.roundBit.toNat := by
  obtain ⟨m, round, sticky⟩ := em
  cases round <;> cases sticky <;>
    simp [ExtendedMantissa.roundedMantissa, ExtendedMantissa.accuracy, Accuracy.roundToNearestEven]
  omega

theorem roundBit_shiftRight (em : ExtendedMantissa) (n : ℕ) :
    (em >>> (n + 1)).roundBit = (em.mantissa / 2 ^ n % 2 != 0) := by
  rw [← mantissa_shiftRight]
  rfl

/-- what lies below the middle under a whole number is rounded below this number -/
theorem roundedMantissa_lt {m c d : ℕ} (h : 2 * m < (2 * c - 1) * 2 ^ d) :
    (ExtendedMantissa.ofMantissaAndAccuracy m .exact >>> d).roundedMantissa < c := by
  cases d with
  | zero =>
    show m < c
    omega
  | succ d =>
    have hle := roundedMantissa_le_roundBit (ExtendedMantissa.ofMantissaAndAccuracy m .exact >>> (d + 1))
    have hm : (ExtendedMantissa.ofMantissaAndAccuracy m .exact).mantissa = m := rfl
    rw [roundBit_shiftRight, mantissa_shiftRight, hm, Nat.pow_succ, ← Nat.div_div_eq_div_mul] at hle
    have hlt : m / 2 ^ d < 2 * c - 1 := by
      rw [Nat.div_lt_iff_lt_mul (Nat.two_pow_pos d)]
      rw [Nat.pow_succ, ← Nat.mul_assoc] at h
      omega
    refine Nat.lt_of_le_of_lt hle ?_
    generalize m / 2 ^ d = t at hlt ⊢
    -- an even number has no bit to round, an odd one lies one further below
    rcases Nat.mod_two_eq_zero_or_one t with heven | hodd
    · rw [heven]
      show t / 2 + 0 < c
      omega
    · rw [hodd]
      show t / 2 + 1 < c
      omega

/-! ## rounding -/

section
variable {m : ℕ} {e : ℤ}

theorem shift_fst (m : ℕ) (e : ℤ) (acc : Accuracy) :
    (shiftToTargetExponent .binary64 m e acc).1 = ExtendedMantissa.ofMantissaAndAccuracy m acc >>>
      ((shiftToTargetExponent .binary64 m e acc).2 - e).toNat := by
  unfold shiftToTargetExponent shiftToExponent
  dsimp only
  congr 1
  omega

/-- with 53 bits at most, nothing is left to be dropped -/
theorem shift_exact {r : ℕ} {f : ℤ} (hr : r < 2 ^ 53) (hf : -1074 ≤ f) :
    shiftToTargetExponent .binary64 r f .exact = (.ofMantissaAndAccuracy r .exact, f) := by
  have hlog : r.log2 ≤ 52 := by
    by_cases h0 : r = 0
    · subst h0
      exact Nat.zero_le 52
    · exact Nat.le_of_lt_succ ((Nat.log2_lt h0).mpr hr)
  have hexp : (shiftToTargetExponent .binary64 r f .exact).2 = f := by
    rw [shift_exponent]
    omega
  refine Prod.ext ?_ hexp
  rw [shift_fst, hexp, sub_self]
  rfl

/-- a carry past 53 bits is a power of two -/
theorem shift_carry {f : ℤ} (hf : -1074 ≤ f) :
    shiftToTargetExponent .binary64 (2 ^ 53) f .exact = (.ofMantissaAndAccuracy (2 ^ 52) .exact, f + 1) := by
  have hexp : (shiftToTargetExponent .binary64 (2 ^ 53) f .exact).2 = f + 1 := by
    rw [shift_exponent, Nat.log2_two_pow]
    omega
  have hone : (f + 1 - f).toNat = 1 := by omega
  refine Prod.ext ?_ hexp
  rw [shift_fst, hexp, hone]
  rfl

theorem shift_lt (m : ℕ) (e : ℤ) (acc : Accuracy) :
    (shiftToTargetExponent .binary64 m e acc).1.mantissa < 2 ^ 53 := by
  have hexp := shift_exponent m e acc
  rw [shift_mantissa, Nat.div_lt_iff_lt_mul (Nat.two_pow_pos _), ← Nat.pow_add]
  exact Nat.lt_of_lt_of_le Nat.lt_log2_self (Nat.pow_le_pow_right Nat.two_pos (by omega))

/-- what comes of rounding, by the exponent and the rounded mantissa of the first step -/
theorem round_cases (s : Sign) (m : ℕ) (e : ℤ) (acc : Accuracy) {f : ℤ} {r : ℕ}
    (hf : (shiftToTargetExponent .binary64 m e acc).2 = f)
    (hr : (shiftToTargetExponent .binary64 m e acc).1.roundedMantissa = r) :
    (r = 0 ∧ roundWithAccuracy .binary64 s m e acc = .zero s) ∨
      (r < 2 ^ 53 ∧ ∃ h, roundWithAccuracy .binary64 s m e acc = .finite s r f h) ∨
      (r = 2 ^ 53 ∧ ∃ h, roundWithAccuracy .binary64 s m e acc = .finite s (2 ^ 52) (f + 1) h) := by
  have hlow : -1074 ≤ f := by
    rw [← hf, shift_exponent]
    omega
  have hle := roundedMantissa_le (shiftToTargetExponent .binary64 m e acc).1
  have hlt := shift_lt m e acc
  unfold roundWithAccuracy
  generalize shiftToTargetExponent .binary64 m e acc = shifted at hf hr hle hlt ⊢
  obtain ⟨em, _⟩ := shifted
  dsimp only at hf hr hle hlt ⊢
  subst hf hr
  by_cases hsmall : em.roundedMantissa < 2 ^ 53
  · rw [shift_exact hsmall hlow]
    by_cases hzero : em.roundedMantissa = 0
    · exact .inl ⟨hzero, dif_pos hzero⟩
    · exact .inr (.inl ⟨hsmall, Nat.pos_of_ne_zero hzero, dif_neg hzero⟩)
  · have hcarry : em.roundedMantissa = 2 ^ 53 := by omega
    rw [hcarry, shift_carry hlow]
    exact .inr (.inr ⟨rfl, Nat.two_pow_pos 52, dif_neg (Nat.two_pow_pos 52).ne'⟩)

/-! ### below a double -/

/-- zero, or positive and less than the double with this mantissa and exponent -/
def Below (c : ℕ) (g : ℤ) : UnpackedFloat → Prop
  | .zero _ => True
  | .finite .positive m e _ => e < g ∨ e = g ∧ m < c
  | _ => False

variable {c : ℕ} {g : ℤ}

theorem Below.cases {u : UnpackedFloat} (h : Below c g u) :
    (∃ s, u = .zero s) ∨
      ∃ m e, ∃ hm : 0 < m, u = .finite .positive m e hm ∧ (e < g ∨ e = g ∧ m < c) := by
  cases u with
  | notANumber => exact h.elim
  | infinity s => exact h.elim
  | zero s => exact .inl ⟨s, rfl⟩
  | finite s m e hm =>
    cases s with
    | negative => exact h.elim
    | positive => exact .inr ⟨m, e, hm, rfl, h⟩

theorem below_round (hc : 2 ^ 52 < c ∧ c < 2 ^ 53) (hg : -1074 ≤ g) (he : e ≤ g)
    (h : 2 * m < (2 * c - 1) * 2 ^ (g - e).toNat) :
    Below c g (roundWithAccuracy .binary64 .positive m e .exact) := by
  have hexp := shift_exponent m e .exact
  have hle : (shiftToTargetExponent .binary64 m e .exact).2 ≤ g := by
    have hlog : (m.log2 : ℤ) ≤ 52 + (g - e) := by
      by_cases h0 : m = 0
      · subst h0
        have hzero : Nat.log2 0 = 0 := rfl
        omega
      · have hlt : m < 2 ^ (53 + (g - e).toNat) := by
          have hmul : (2 * c - 1) * 2 ^ (g - e).toNat ≤ 2 * (2 ^ 53 * 2 ^ (g - e).toNat) := by
            rw [← Nat.mul_assoc]
            exact Nat.mul_le_mul_right _ (by omega)
          rw [Nat.pow_add]
          omega
        have := (Nat.log2_lt h0).mpr hlt
        omega
    omega
  have hbound : (shiftToTargetExponent .binary64 m e .exact).2 = g →
      (shiftToTargetExponent .binary64 m e .exact).1.roundedMantissa < c := by
    intro heq
    rw [shift_fst, heq]
    exact roundedMantissa_lt h
  generalize hf : (shiftToTargetExponent .binary64 m e .exact).2 = f at hle hbound
  generalize hr : (shiftToTargetExponent .binary64 m e .exact).1.roundedMantissa = r at hbound
  rcases round_cases .positive m e .exact hf hr with ⟨_, hzero⟩ | ⟨_, _, hfinite⟩ | ⟨hcarry, _, hfinite⟩
  · rw [hzero]
    trivial
  · rw [hfinite]
    exact hle.lt_or_eq.imp_right fun heq => ⟨heq, hbound heq⟩
  · rw [hfinite]
    show f + 1 < g ∨ f + 1 = g ∧ 2 ^ 52 < c
    have hne : f ≠ g := fun heq => by
      have := hbound heq
      omega
    omega

/-! ### from a power of two on -/

/-- infinite, or finite and no less than the double with 53 bits and this exponent -/
def Aloft (g : ℤ) : UnpackedFloat → Prop
  | .infinity .positive => True
  | .finite .positive m e _ => g ≤ e ∧ 2 ^ 52 ≤ m ∧ m < 2 ^ 53
  | _ => False

theorem Aloft.cases {u : UnpackedFloat} (h : Aloft g u) :
    u = .infinity .positive ∨
      ∃ m e, ∃ hm : 0 < m, u = .finite .positive m e hm ∧ g ≤ e ∧ 2 ^ 52 ≤ m ∧ m < 2 ^ 53 := by
  cases u with
  | notANumber => exact h.elim
  | zero s => exact h.elim
  | infinity s =>
    cases s with
    | negative => exact h.elim
    | positive => exact .inl rfl
  | finite s m e hm =>
    cases s with
    | negative => exact h.elim
    | positive => exact .inr ⟨m, e, hm, rfl, h⟩

theorem aloft_round (hg : -1074 ≤ g) (he : g ≤ e) (hm : 2 ^ 52 ≤ m) (acc : Accuracy) :
    Aloft g (roundWithAccuracy .binary64 .positive m e acc) := by
  have hm0 : m ≠ 0 := by omega
  have hlog : 52 ≤ m.log2 := (Nat.le_log2 hm0).mpr hm
  have hexp : (shiftToTargetExponent .binary64 m e acc).2 = m.log2 + e - 52 := by
    rw [shift_exponent]
    omega
  have hge : 2 ^ 52 ≤ (shiftToTargetExponent .binary64 m e acc).1.roundedMantissa := by
    refine le_trans ?_ (le_roundedMantissa _)
    have hdrop : ((m.log2 : ℤ) + e - 52 - e).toNat = m.log2 - 52 := by omega
    rw [shift_mantissa, hexp, hdrop, Nat.le_div_iff_mul_le (Nat.two_pow_pos _), ← Nat.pow_add,
      show 52 + (m.log2 - 52) = m.log2 by omega]
    exact Nat.log2_self_le hm0
  generalize hr : (shiftToTargetExponent .binary64 m e acc).1.roundedMantissa = r at hge
  rcases round_cases .positive m e acc hexp hr with ⟨hzero, _⟩ | ⟨hlt, _, hfinite⟩ | ⟨_, _, hfinite⟩
  · omega
  · rw [hfinite]
    exact ⟨by omega, hge, hlt⟩
  · rw [hfinite]
    exact ⟨by omega, le_refl _, by decide⟩

end

/-! ## packing -/

theorem bias_eq : ((Format.binary64.exponentBias : ℕ) : ℤ) = 1023 := rfl

/-- bits with an exponent field that is neither empty nor full -/
theorem unpack_fields {b : BitVec Format.binary64.numBits} {s : Sign} {m E : ℕ}
    (hsign : unpackSign b = s.toBitVec) (hexp : (unpackExponent b).toNat = E)
    (hmant : (unpackMantissa b).toNat = m) (hE : 0 < E ∧ E < 2047) :
    ∃ h, UnpackedFloat.unpack .binary64 b = .finite s (2 ^ 52 + m) (E - 1075) h := by
  have hnormal : unpackExponent b ≠ -1#_ ∧ unpackExponent b ≠ 0#_ := by
    constructor <;> intro heq <;> rw [heq] at hexp
    · have h2047 : (-1#_ : BitVec Format.binary64.exponentBits).toNat = 2047 := rfl
      omega
    · have h0 : (0#_ : BitVec Format.binary64.exponentBits).toNat = 0 := rfl
      omega
  have hmantissa : (1#1 ++ unpackMantissa b).toNat = 2 ^ 52 + m := by
    have hlt : (unpackMantissa b).toNat < 2 ^ 52 := (unpackMantissa b).isLt
    have hor := Nat.two_pow_add_eq_or_of_lt hlt 1
    rw [Nat.mul_one] at hor
    rw [BitVec.toNat_append, ← hmant, hor]
    rfl
  have hexponent : ((unpackExponent b).toNat : ℤ) -
      ((Format.binary64.exponentBias : ℕ) + Format.binary64.mantissaBitsWithoutImplicit) = E - 1075 := by
    rw [hexp]
    rfl
  have hs : Sign.ofBitVec s.toBitVec = s := by cases s <;> rfl
  unfold UnpackedFloat.unpack
  dsimp only
  rw [if_neg hnormal.1, if_neg hnormal.2]
  refine ⟨by omega, ?_⟩
  congr 1
  rw [hsign, hs]

/-- 53 bits with an exponent in range are packed without loss -/
theorem unpack_pack_normal {s : Sign} {m : ℕ} {e : ℤ} {h : 0 < m} (hm : 2 ^ 52 ≤ m ∧ m < 2 ^ 53)
    (he : -1074 ≤ e ∧ e ≤ 971) :
    UnpackedFloat.unpack .binary64 (UnpackedFloat.pack .binary64 (.finite s m e h)) = .finite s m e h := by
  have hbiased : (e + 1023 + ((52 : ℕ) : ℤ)).toNat = (e + 1075).toNat := by
    congr 1
    omega
  have hbits : 52 + 1 = Format.binary64.mantissaBits := rfl
  have hfield : (BitVec.ofNat 11 (e + 1075).toNat).toNat = (e + 1075).toNat := by
    rw [BitVec.toNat_ofNat]
    omega
  have hmant : (BitVec.ofNat 52 m).toNat = m % 2 ^ 52 := BitVec.toNat_ofNat ..
  unfold UnpackedFloat.pack
  dsimp only
  rw [bias_eq, hbiased, if_neg (by omega), log2_of_bits hm, if_pos hbits]
  obtain ⟨_, hunpack⟩ := unpack_fields
    (b := packComponents .binary64 s (BitVec.ofNat 11 (e + 1075).toNat) (BitVec.ofNat 52 m))
    (unpackSign_packComponents ..) (by rw [unpackExponent_packComponents, hfield])
    (by rw [unpackMantissa_packComponents, hmant]) (by omega)
  rw [hunpack]
  congr 1 <;> omega

section
variable {c : ℕ} {g : ℤ}

/-- what is packed with the least exponent is read back with it -/
theorem below_unpack {b : BitVec Format.binary64.numBits} (hg : -1074 < g)
    (hsign : unpackSign b = 0#1) (hexp : unpackExponent b = 0#11) :
    Below c g (UnpackedFloat.unpack .binary64 b) := by
  have hmax : unpackExponent b ≠ -1#_ := by
    rw [hexp]
    decide
  unfold UnpackedFloat.unpack
  dsimp only
  rw [if_neg hmax, if_pos hexp, hsign, bias_eq, hexp]
  split
  · trivial
  · exact Or.inl hg

theorem below_pack (hg : -1074 < g ∧ g ≤ 971) {u : UnpackedFloat} (h : Below c g u) :
    Below c g (UnpackedFloat.unpack .binary64 (UnpackedFloat.pack .binary64 u)) := by
  rcases h.cases with ⟨s, rfl⟩ | ⟨m, e, hm, rfl, hlt⟩
  · show Below c g (UnpackedFloat.unpack _ (packedZero _ _))
    rw [unpack_packedZero]
    trivial
  by_cases hnormal : (2 ^ 52 ≤ m ∧ m < 2 ^ 53) ∧ -1074 ≤ e
  · rw [unpack_pack_normal hnormal.1 ⟨hnormal.2, by omega⟩]
    exact h
  -- the mantissa or the exponent is too small, and the exponent field is empty
  have hbiased : (e + 1023 + ((52 : ℕ) : ℤ)).toNat ≤ 2046 := by omega
  unfold UnpackedFloat.pack
  dsimp only
  rw [bias_eq, if_neg (by omega)]
  split
  · next hbits =>
    have hzero : (e + 1023 + ((52 : ℕ) : ℤ)).toNat = 0 := by
      have hlog : m.log2 = 52 := Nat.succ.inj hbits
      have hm' := (Nat.log2_eq_iff hm.ne').mp hlog
      omega
    rw [hzero]
    refine below_unpack hg.1 (unpackSign_packComponents ..) ?_
    rw [unpackExponent_packComponents]
  · refine below_unpack hg.1 (unpackSign_packComponents ..) ?_
    rw [unpackExponent_packComponents]

theorem aloft_pack (hg : -1074 ≤ g) {u : UnpackedFloat} (h : Aloft g u) :
    Aloft g (UnpackedFloat.unpack .binary64 (UnpackedFloat.pack .binary64 u)) := by
  rcases h.cases with rfl | ⟨m, e, hm, rfl, he, hbits⟩
  · exact (congrArg (Aloft g) unpack_infinity).mpr trivial
  by_cases hmax : e ≤ 971
  · rw [unpack_pack_normal hbits ⟨by omega, hmax⟩]
    exact h
  · unfold UnpackedFloat.pack
    dsimp only
    rw [bias_eq, if_pos (by omega)]
    exact (congrArg (Aloft g) unpack_infinity).mpr trivial

end

/-! ## the order -/

section
variable {x y : Float} {c : ℕ} {g : ℤ}

theorem lt_of_below {h : 0 < c} (hx : Below c g x.toModel.unpack)
    (hy : y.toModel.unpack = .finite .positive c g h) : x < y := by
  rw [lt_iff_unpack, hy]
  rcases hx.cases with ⟨s, hzero⟩ | ⟨m, e, hm, hfinite, hlt⟩
  · rw [hzero]
    cases s <;> rfl
  · rw [hfinite, lt_iff_levelOf rfl rfl]
    simp only [levelOf, Prod.Lex.toLex_lt_toLex, lt_self_iff_false, false_or, true_and]
    exact_mod_cast hlt

theorem not_lt_of_aloft {h : 0 < 2 ^ 52} (hx : Aloft g x.toModel.unpack)
    (hy : y.toModel.unpack = .finite .positive (2 ^ 52) g h) : ¬ x < y := by
  rw [lt_iff_unpack, hy]
  rcases hx.cases with hinfinite | ⟨m, e, _, hfinite, he, hm, _⟩
  · rw [hinfinite]
    exact Bool.false_ne_true
  · rw [hfinite, lt_iff_levelOf rfl rfl]
    simp only [levelOf, Prod.Lex.toLex_lt_toLex, lt_self_iff_false, false_or, true_and]
    omega

end

/-! ## one more -/

theorem unpack_one : (1.0 : Float).toModel.unpack = .finite .positive (2 ^ 52) (-52) (Nat.two_pow_pos 52) := by
  rfl

/-- what is no less than one is infinite, or has no smaller exponent and mantissa -/
theorem not_lt_one_cases {x : Float} (h : ¬ x < 1.0) (hx : x.isNaN = false) :
    x.toModel.unpack = .infinity .positive ∨
      ∃ m e hm, x.toModel.unpack = .finite .positive m e hm ∧ (-52 < e ∨ e = -52 ∧ 2 ^ 52 ≤ m) := by
  rw [lt_iff_unpack, unpack_one] at h
  have hx : x.toModel.unpack.isNaN = false := hx
  generalize x.toModel.unpack = u at h hx ⊢
  cases u with
  | notANumber => exact nomatch hx
  | zero s => cases s <;> exact absurd rfl h
  | infinity s =>
    cases s with
    | negative => exact absurd rfl h
    | positive => exact .inl rfl
  | finite s m e hm =>
    cases s with
    | negative => exact absurd rfl h
    | positive =>
      rw [lt_iff_levelOf rfl rfl] at h
      simp only [levelOf, Prod.Lex.toLex_lt_toLex, lt_self_iff_false, false_or, true_and] at h
      exact .inr ⟨m, e, hm, rfl, by omega⟩

/-- with 53 bits at least, the exponent needs no decrease -/
theorem aloft_normalize {m : ℕ} (hm : 2 ^ 52 ≤ m) :
    Aloft (-52) (UnpackedFloat.normalize .binary64 (m : ℤ) (-52) .positive) := by
  have hcompare : compare (m : ℤ) 0 = .gt := by
    rw [compare_gt_iff_gt]
    omega
  have hlog : 52 ≤ m.log2 := (Nat.le_log2 (by omega)).mpr hm
  have htarget : -52 - Format.binary64.targetExponent (totalExponent m (-52)) ≤ 0 := by
    show (-52 : ℤ) - max ((m.log2 : ℤ) + 1 + -52 - 53) (-1074) ≤ 0
    omega
  unfold UnpackedFloat.normalize
  rw [hcompare]
  dsimp only
  rw [Int.toNat_natCast]
  unfold UnpackedFloat.round decreaseExponent
  dsimp only
  rw [Int.toNat_of_nonpos htarget, Nat.shiftLeft_zero, Nat.cast_zero, sub_zero]
  exact aloft_round (by decide) (by decide) hm .exact

theorem aloft_add_one {m : ℕ} {e : ℤ} {h : 0 < m} (he : -52 ≤ e) :
    Aloft (-52) (UnpackedFloat.add .binary64 (.finite .positive m e h)
      (.finite .positive (2 ^ 52) (-52) (Nat.two_pow_pos 52))) := by
  have hmin : min e (-52) = -52 := min_eq_right he
  unfold UnpackedFloat.add decreaseExponent
  dsimp only [Sign.apply]
  rw [hmin, sub_self, Int.toNat_zero, Nat.shiftLeft_zero, ← Nat.cast_add]
  exact aloft_normalize (Nat.le_add_left (2 ^ 52) (m <<< (e - -52).toNat))

/-- a number that is no less than one is no less than one with one added -/
theorem not_lt_one_add_one {x : Float} (h : ¬ x < 1.0) : ¬ x + 1.0 < 1.0 := by
  intro hlt
  have hsum : ∀ u, x.toModel.unpack = u → (x + 1.0).toModel.unpack =
      UnpackedFloat.unpack .binary64 (UnpackedFloat.pack .binary64 (UnpackedFloat.add .binary64 u
        (.finite .positive (2 ^ 52) (-52) (Nat.two_pow_pos 52)))) := by
    rintro _ rfl
    rw [← unpack_one]
    rfl
  cases hnan : x.isNaN with
  | true =>
    have hsum := hsum _ (isNaN_iff.mp hnan)
    have hnone : (x + 1.0).isNaN = true := by
      show (x + 1.0).toModel.unpack.isNaN = true
      rw [hsum]
      rfl
    rw [(isNaN_of_lt hlt).1] at hnone
    exact nomatch hnone
  | false =>
    refine not_lt_of_aloft (g := -52) ?_ unpack_one hlt
    rcases not_lt_one_cases h hnan with hinf | ⟨m, e, hm, hfinite, hge⟩
    · rw [hsum _ hinf]
      exact aloft_pack (by decide) trivial
    · rw [hsum _ hfinite]
      exact aloft_pack (by decide) (aloft_add_one (by omega))

end ContractRisk.Double
