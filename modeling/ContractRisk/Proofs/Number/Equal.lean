import Mathlib
import ContractRisk.Proofs.Number.Double

/-!
# Equal doubles

Every finite double has one mantissa and one exponent (`Normal.unique`), so that its number determines its
bits, the sign of zero apart. Equality of doubles therefore is equality of what they stand for:

* `beq_of_whole?`    doubles that stand for the same whole number are equal;
* `beq_iff_whole?`   other doubles are equal exactly if they are the same and not NaN.
-/

namespace ContractRisk.Binary64

variable {x y : Float} {n n' : Bool} {m m' : ℕ} {e e' : ℤ}

/-! ## mantissa and exponent -/

/-- no more than 53 bits, and fewer only where the exponent cannot be lower -/
structure Normal (m : ℕ) (e : ℤ) : Prop where
  lt : m < 2 ^ 53
  le : -1074 ≤ e
  full : e = -1074 ∨ 2 ^ 52 ≤ m

/-- of two products that are equal, the second does not have the greater exponent -/
theorem Normal.exponent_le (h : Normal m e) (h' : Normal m' e')
    (heq : m * 2 ^ e.toNat * 2 ^ (-e').toNat = m' * 2 ^ e'.toNat * 2 ^ (-e).toNat) : e' ≤ e := by
  by_contra hlt
  have hle := h.le
  have hm' : 2 ^ 52 ≤ m' := h'.full.resolve_left (by omega)
  obtain ⟨k, hk⟩ : ∃ k, e'.toNat + (-e).toNat = k + 1 + (e.toNat + (-e').toNat) :=
    ⟨(e' - e).toNat - 1, by omega⟩
  have hm : m = m' * 2 ^ (k + 1) := by
    refine Nat.eq_of_mul_eq_mul_right (Nat.two_pow_pos (e.toNat + (-e').toNat)) ?_
    rw [Nat.mul_assoc, ← Nat.pow_add, ← hk, Nat.pow_add, Nat.pow_add, ← Nat.mul_assoc, ← Nat.mul_assoc]
    exact heq
  -- one more bit than there is room for
  have hdouble : 2 ^ 52 * 2 ≤ m' * 2 ^ (k + 1) := Nat.mul_le_mul hm' (Nat.le_self_pow (Nat.succ_ne_zero k) 2)
  have hroom := h.lt
  omega

theorem Normal.unique (h : Normal m e) (h' : Normal m' e')
    (heq : m * 2 ^ e.toNat * 2 ^ (-e').toNat = m' * 2 ^ e'.toNat * 2 ^ (-e).toNat) : m = m' ∧ e = e' := by
  have he : e = e' := le_antisymm (h'.exponent_le h heq.symm) (h.exponent_le h' heq)
  subst he
  rw [Nat.mul_assoc, Nat.mul_assoc] at heq
  exact ⟨Nat.eq_of_mul_eq_mul_right (by positivity) heq, rfl⟩

/-! ## bits -/

/-- the bits of a finite double from its sign, its mantissa and its exponent -/
theorem toBits_of_finite (h : ofFloat x = .finite n m e) : Normal m e ∧
    x.toBits.toNat = (if n then 2 ^ 63 else 0) + (e + 1074).toNat * 2 ^ 52 + m := by
  have hlt : x.toBits.toNat < 2 ^ 64 := x.toBits.toNat_lt
  unfold ofFloat at h
  dsimp only at h
  split at h
  · split at h <;> cases h
  · split at h
    · cases h
      refine ⟨⟨by omega, le_rfl, .inl rfl⟩, ?_⟩
      simp only [decide_eq_true_eq]
      split <;> omega
    · cases h
      refine ⟨⟨by omega, by omega, .inr (by omega)⟩, ?_⟩
      simp only [decide_eq_true_eq]
      split <;> omega

theorem ofFloat_injective (hx : ofFloat x = .finite n m e) (hy : ofFloat y = .finite n m e) : x = y := by
  have hbits := (toBits_of_finite hx).2.trans (toBits_of_finite hy).2.symm
  exact Float.toBits_inj.mp (UInt64.toNat_inj.mp hbits)

theorem eq_zero_of_finite (h : ofFloat x = .finite n 0 e) : x = 0 ∨ x = -0 := by
  obtain ⟨hnormal, hbits⟩ := toBits_of_finite h
  obtain rfl : e = -1074 := hnormal.full.resolve_right (by decide)
  cases n with
  | false => exact .inl (Float.toBits_inj.mp (UInt64.toNat_inj.mp hbits))
  | true => exact .inr (Float.toBits_inj.mp (UInt64.toNat_inj.mp hbits))

theorem isNaN_of_finite (h : ofFloat x = .finite n m e) : x.isNaN = false := by
  have hnan : ofFloat Float.nan = .nan := by decide +kernel
  rw [Float.isNaN_eq_decide_eq_nan, decide_eq_false_iff_not]
  rintro rfl
  rw [hnan] at h
  exact nomatch h

/-! ## whole numbers -/

theorem signed_injective {q q' : ℕ} (h : signed n q = signed n' q') : q = q' ∧ (q = 0 ∨ n = n') := by
  unfold signed at h
  cases n <;> cases n' <;> simp at h ⊢ <;> omega

theorem whole?_eq_some {i : ℤ} (h : whole? x = some i) : ∃ n m e q, ofFloat x = .finite n m e ∧
    m * 2 ^ e.toNat = q * 2 ^ (-e).toNat ∧ i = signed n q := by
  unfold whole? at h
  split at h
  · next n m e hx =>
    unfold ratio at h
    dsimp only at h
    split at h
    · next hmod =>
      cases h
      exact ⟨n, m, e, _, hx, (Nat.div_mul_cancel (Nat.dvd_of_mod_eq_zero hmod)).symm, rfl⟩
    · cases h
  · cases h

theorem isNaN_of_whole? {i : ℤ} (h : whole? x = some i) : x.isNaN = false := by
  obtain ⟨_, _, _, _, hx, _⟩ := whole?_eq_some h
  exact isNaN_of_finite hx

/-- doubles that stand for the same whole number are equal -/
theorem beq_of_whole? {i : ℤ} (hx : whole? x = some i) (hy : whole? y = some i) : (x == y) = true := by
  obtain ⟨n, m, e, q, hfx, hq, rfl⟩ := whole?_eq_some hx
  obtain ⟨n', m', e', q', hfy, hq', hi⟩ := whole?_eq_some hy
  obtain ⟨rfl, hsign⟩ := signed_injective hi
  have heq : m * 2 ^ e.toNat * 2 ^ (-e').toNat = m' * 2 ^ e'.toNat * 2 ^ (-e).toNat := by
    rw [hq, hq', Nat.mul_right_comm]
  obtain ⟨rfl, rfl⟩ := (toBits_of_finite hfx).1.unique (toBits_of_finite hfy).1 heq
  rcases hsign with rfl | rfl
  · have hm : m = 0 := by
      rw [Nat.zero_mul] at hq
      exact (Nat.mul_eq_zero.mp hq).resolve_right (by positivity)
    subst hm
    rcases eq_zero_of_finite hfx with rfl | rfl <;> rcases eq_zero_of_finite hfy with rfl | rfl <;>
      decide +kernel
  · have hself := Double.beq_self (isNaN_of_finite hfx)
    rwa [ofFloat_injective hfx hfy] at hself ⊢

/-! ## equality -/

theorem whole?_congr (h : (x == y) = true) : whole? x = whole? y := by
  obtain ⟨_, _, rfl | ⟨rfl, rfl⟩ | ⟨rfl, rfl⟩⟩ := Float.beq_iff_ne_nan_and_eq.mp h
  · rfl
  · decide +kernel
  · decide +kernel

/-- doubles are equal if they stand for the same whole number or are the same number, and only then -/
theorem beq_iff_whole? : (x == y) = true ↔ (∃ i, whole? x = some i ∧ whole? y = some i) ∨
    whole? x = none ∧ x = y ∧ x.isNaN = false := by
  constructor
  · intro h
    cases hx : whole? x with
    | some i => exact .inl ⟨i, rfl, (whole?_congr h).symm.trans hx⟩
    | none =>
      obtain ⟨hnan, _, hxy⟩ := Float.beq_iff_ne_nan_and_eq.mp h
      have hzero : whole? 0 = some 0 ∧ whole? (-0) = some 0 := by decide +kernel
      refine .inr ⟨rfl, ?_, ?_⟩
      · -- the two zeros are whole
        rcases hxy with rfl | ⟨rfl, _⟩ | ⟨rfl, _⟩
        · rfl
        · exact nomatch hx.symm.trans hzero.1
        · exact nomatch hx.symm.trans hzero.2
      · rw [Float.isNaN_eq_decide_eq_nan, decide_eq_false hnan]
  · rintro (⟨i, hx, hy⟩ | ⟨_, rfl, hnan⟩)
    · exact beq_of_whole? hx hy
    · exact Double.beq_self hnan

end ContractRisk.Binary64
