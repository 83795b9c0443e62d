import ContractRisk.Proofs.Number.Rounding

/-!
# Percentages that are scaled

A scale is a double from zero to one. A whole number of percent times a scale is a double from zero to a
hundred, and rounding never lifts it to a hundred: only a hundred percent at the scale one come to that.

* `le_iff_level`       doubles are compared like their levels up to equality as well;
* `scaled_below`       with a scale below one, the product is below a hundred;
* `scaled_cases`       a product lies between zero and a hundred, and when it is a hundred.
-/

namespace ContractRisk.Double

open Float.Model Float.Model.UnpackedFloat

/-! ## the order with equality -/

private theorem then_swap (e f : ℤ) (m n : ℕ) :
    ((compare e f).then (compare m n)).swap = (compare f e).then (compare n m) := by
  rw [Ordering.swap_then, ← Int.compare_swap, Ordering.swap_swap, Nat.compare_swap]

theorem compare_swap (a b : UnpackedFloat) : (a.compare b).map Ordering.swap = b.compare a := by
  -- only two finite numbers of one sign need exponents
  rcases a with s | _ | s | ⟨s, m, e, hm⟩ <;> rcases b with t | _ | t | ⟨t, n, f, hn⟩ <;>
    (try cases s) <;> (try cases t) <;> try rfl
  · exact congrArg some (congrArg Ordering.swap (then_swap e f m n))
  · exact congrArg some (then_swap e f m n)

theorem compare_ne_none {a b : UnpackedFloat} (ha : a.isNaN = false) (hb : b.isNaN = false) :
    a.compare b ≠ none := by
  rcases a with s | _ | s | ⟨s, m, e, hm⟩ <;> rcases b with t | _ | t | ⟨t, n, f, hn⟩ <;>
    simp only [UnpackedFloat.isNaN, Bool.true_eq_false] at ha hb <;>
    (try cases s) <;> (try cases t) <;> exact Option.some_ne_none _

section
variable {x y : Float}

theorem le_iff_unpack (x y : Float) : x ≤ y ↔ x.toModel.unpack.le y.toModel.unpack = true := by
  show decide (x.toModel ≤ y.toModel) = true ↔ _
  rw [decide_eq_true_iff]
  rfl

theorem le_iff_level (hx : x.isNaN = false) (hy : y.isNaN = false) :
    x ≤ y ↔ level x ≤ level y := by
  rw [le_iff_unpack, ← not_lt (a := level y), ← lt_iff_level hy hx, lt_iff_unpack]
  have hx : x.toModel.unpack.isNaN = false := hx
  have hy : y.toModel.unpack.isNaN = false := hy
  generalize x.toModel.unpack = a at hx ⊢
  generalize y.toModel.unpack = b at hy ⊢
  unfold UnpackedFloat.le UnpackedFloat.lt
  rw [← compare_swap a b]
  cases hc : a.compare b with
  | none => exact absurd hc (compare_ne_none hx hy)
  | some o => cases o <;> decide

theorem isNaN_of_le (h : x ≤ y) : x.isNaN = false ∧ y.isNaN = false := by
  rw [le_iff_unpack, UnpackedFloat.le] at h
  cases hc : x.toModel.unpack.compare y.toModel.unpack with
  | none =>
    rw [hc] at h
    exact nomatch h
  | some o => exact isNaN_of_compare hc

theorem le_of_lt (h : x < y) : x ≤ y := by
  obtain ⟨hx, hy⟩ := isNaN_of_lt h
  rw [lt_iff_level hx hy] at h
  exact (le_iff_level hx hy).mpr h.le

theorem not_lt_of_le (h : x ≤ y) : ¬ y < x := by
  obtain ⟨hx, hy⟩ := isNaN_of_le h
  rw [lt_iff_level hy hx, not_lt]
  exact (le_iff_level hx hy).mp h

theorem lt_or_beq_of_le (h : x ≤ y) : x < y ∨ (x == y) = true := by
  rw [le_iff_unpack] at h
  rw [lt_iff_unpack]
  show _ ∨ x.toModel.unpack.beq y.toModel.unpack = true
  unfold UnpackedFloat.le at h
  unfold UnpackedFloat.lt UnpackedFloat.beq
  cases hc : x.toModel.unpack.compare y.toModel.unpack with
  | none =>
    rw [hc] at h
    exact nomatch h
  | some o =>
    rw [hc] at h
    cases o with
    | lt => exact .inl rfl
    | eq => exact .inr rfl
    | gt => exact nomatch h

theorem beq_eq_false_of_lt (h : x < y) : (x == y) = false := by
  rw [lt_iff_unpack] at h
  show x.toModel.unpack.beq y.toModel.unpack = false
  unfold UnpackedFloat.lt at h
  unfold UnpackedFloat.beq
  rw [eq_of_beq h]
  rfl

end

/-! ## scales -/

/-- zero, or positive and no more than one -/
def UpToOne : UnpackedFloat → Prop
  | .zero _ => True
  | .finite .positive m e _ => e < -52 ∧ m < 2 ^ 53 ∨ e = -52 ∧ m ≤ 2 ^ 52
  | _ => False

/-- a double has at most 53 bits -/
theorem mantissa_lt {b : BitVec Format.binary64.numBits} {s : Sign} {m : ℕ} {e : ℤ} {h : 0 < m}
    (hb : UnpackedFloat.unpack .binary64 b = .finite s m e h) : m < 2 ^ 53 := by
  unfold UnpackedFloat.unpack at hb
  dsimp only at hb
  split at hb
  · split at hb <;> cases hb
  · split at hb
    · split at hb
      · cases hb
      · cases hb
        exact lt_trans (unpackMantissa b).isLt (by decide)
    · cases hb
      exact (1#1 ++ unpackMantissa b).isLt

theorem upToOne_of_le {s : Float} (h0 : 0.0 ≤ s) (h1 : s ≤ 1.0) : UpToOne s.toModel.unpack := by
  obtain ⟨hzero, hs⟩ := isNaN_of_le h0
  rw [le_iff_level hzero hs] at h0
  rw [le_iff_level hs (isNaN_of_le h1).2] at h1
  have hlevel0 : level (0.0 : Float) = toLex (0, toLex (0, 0)) := by rfl
  have hlevel1 : level (1.0 : Float) = toLex (1, toLex (-52, 2 ^ 52)) := by rfl
  have hs : s.toModel.unpack.isNaN = false := hs
  have hbits : ∀ t m e h, s.toModel.unpack = .finite t m e h → m < 2 ^ 53 := fun _ _ _ _ h => mantissa_lt h
  rw [hlevel0] at h0
  rw [hlevel1] at h1
  unfold level at h0 h1
  generalize s.toModel.unpack = u at h0 h1 hs hbits ⊢
  cases u with
  | notANumber => exact nomatch hs
  | zero s => trivial
  | infinity s =>
    cases s with
    | negative => exact absurd h0 (by decide)
    | positive => exact absurd h1 (by decide)
  | finite s m e hm =>
    cases s with
    | negative =>
      simp [levelOf, Prod.Lex.toLex_le_toLex] at h0
    | positive =>
      simp only [levelOf, Prod.Lex.toLex_le_toLex, lt_self_iff_false, false_or, true_and] at h1
      have hm := hbits _ _ _ _ rfl
      show e < -52 ∧ m < 2 ^ 53 ∨ e = -52 ∧ m ≤ 2 ^ 52
      omega

/-! ## percent -/

/-- the exact double of a percentage -/
def IsPercent (n : ℕ) : UnpackedFloat → Prop
  | .zero .positive => n = 0
  | .finite .positive m e _ => (-52 ≤ e ∧ e ≤ -46) ∧ m = n * 2 ^ (-e).toNat
  | _ => False

instance (n : ℕ) : DecidablePred (IsPercent n)
  | .zero .positive => inferInstanceAs (Decidable (n = 0))
  | .finite .positive m e _ => inferInstanceAs (Decidable ((-52 ≤ e ∧ e ≤ -46) ∧ m = n * 2 ^ (-e).toNat))
  | .zero .negative | .finite .negative .. | .infinity _ | .notANumber => inferInstanceAs (Decidable False)

theorem isPercent_ofInt : ∀ n : Fin 101, IsPercent n (Binary64.ofInt n).toModel.unpack := by
  decide +kernel

theorem unpack_hundred : (100.0 : Float).toModel.unpack =
    .finite .positive (100 * 2 ^ 46) (-46) (by decide) := by rfl

/-! ## products -/

section
variable {n : ℕ} {u v : UnpackedFloat}

/-- a percentage at the exponent `E`, times a mantissa below one at the exponent `e` -/
theorem scaled_lt {m : ℕ} {E e : ℤ} (hn : n ≤ 100) (hE : E ≤ 0)
    (hm : e < -52 ∧ m < 2 ^ 53 ∨ e = -52 ∧ m ≤ 2 ^ 52) (hne : e = -52 → m ≠ 2 ^ 52) :
    2 * (n * 2 ^ (-E).toNat * m) < (2 * (100 * 2 ^ 46) - 1) * 2 ^ (-46 - (E + e)).toNat := by
  -- the places of the percentage are on both sides
  have hscaled : 2 * (n * m) < (2 * (100 * 2 ^ 46) - 1) * 2 ^ (-46 - e).toNat := by
    have hnm : n * m ≤ 100 * m := Nat.mul_le_mul_right m hn
    rcases hm with ⟨he, hm⟩ | ⟨rfl, hm⟩
    · have hpow : 2 ^ 7 ≤ 2 ^ (-46 - e).toNat := Nat.pow_le_pow_right Nat.two_pos (by omega)
      have hmul := Nat.mul_le_mul_left (2 * (100 * 2 ^ 46) - 1) hpow
      omega
    · have hne := hne rfl
      have hsix : (-46 - (-52 : ℤ)).toNat = 6 := rfl
      rw [hsix]
      omega
  calc 2 * (n * 2 ^ (-E).toNat * m)
    _ = 2 * (n * m) * 2 ^ (-E).toNat := by ring
    _ < (2 * (100 * 2 ^ 46) - 1) * 2 ^ (-46 - e).toNat * 2 ^ (-E).toNat :=
        Nat.mul_lt_mul_of_pos_right hscaled (Nat.two_pow_pos _)
    _ = (2 * (100 * 2 ^ 46) - 1) * 2 ^ (-46 - (E + e)).toNat := by
        rw [Nat.mul_assoc, ← Nat.pow_add]
        congr 2
        omega

/-- with a scale below one, the exact product lies below the middle under a hundred -/
theorem scaled_below (hn : n ≤ 100) (hu : IsPercent n u) (hv : UpToOne v)
    (hone : ∀ h, v ≠ .finite .positive (2 ^ 52) (-52) h) :
    Below (100 * 2 ^ 46) (-46) (UnpackedFloat.mul .binary64 u v) := by
  cases u with
  | notANumber => exact hu.elim
  | infinity s => exact hu.elim
  | zero s => cases v <;> trivial
  | finite s M E hM =>
    cases s with
    | negative => exact hu.elim
    | positive =>
      cases v with
      | notANumber => exact hv.elim
      | infinity s => exact hv.elim
      | zero s => trivial
      | finite s m e hm =>
        cases s with
        | negative => exact hv.elim
        | positive =>
          obtain ⟨hE, rfl⟩ := hu
          have hne : e = -52 → m ≠ 2 ^ 52 := by
            rintro rfl rfl
            exact hone hm rfl
          have hv : e < -52 ∧ m < 2 ^ 53 ∨ e = -52 ∧ m ≤ 2 ^ 52 := hv
          exact below_round (by decide) (by decide) (by omega) (scaled_lt hn (by omega) hv hne)

end

theorem unpack_mul (x y : Float) : (x * y).toModel.unpack =
    UnpackedFloat.unpack .binary64 (UnpackedFloat.pack .binary64
      (UnpackedFloat.mul .binary64 x.toModel.unpack y.toModel.unpack)) := rfl

theorem zero_le_of_below {x : Float} {c : ℕ} {g : ℤ} (h : Below c g x.toModel.unpack) : 0.0 ≤ x := by
  rw [le_iff_unpack, show (0.0 : Float).toModel.unpack = .zero .positive from rfl]
  rcases h.cases with ⟨s, hzero⟩ | ⟨m, e, hm, hfinite, _⟩
  · rw [hzero]
    rfl
  · rw [hfinite]
    rfl

theorem beq_one_iff {s : Float} :
    (s == 1.0) = true ↔ s.toModel.unpack = .finite .positive (2 ^ 52) (-52) (Nat.two_pow_pos 52) := by
  show s.toModel.unpack.beq (1.0 : Float).toModel.unpack = true ↔ _
  rw [beq_iff_ne_notANumber_and_eq, unpack_one]
  constructor
  · rintro ⟨_, _, heq | hzero⟩
    · exact heq
    · simp at hzero
  · intro h
    rw [h]
    exact ⟨nofun, nofun, .inl rfl⟩

theorem percent_one : ∀ n : Fin 101, (0.0 ≤ Binary64.ofInt n * 1.0 ∧ Binary64.ofInt n * 1.0 ≤ 100.0) ∧
    (Binary64.ofInt n * 1.0 < 100.0 ↔ n ≠ 100) := by
  decide +kernel

/-- a percentage that is scaled is from zero to a hundred, and a hundred only if nothing is taken off -/
theorem scaled_cases {c : ℤ} (hc : 0 ≤ c ∧ c ≤ 100) {s : Float} (h0 : 0.0 ≤ s) (h1 : s ≤ 1.0) :
    (0.0 ≤ Binary64.ofInt c * s ∧ Binary64.ofInt c * s ≤ 100.0) ∧
      (Binary64.ofInt c * s < 100.0 ↔ ¬ (c = 100 ∧ (s == 1.0) = true)) := by
  obtain ⟨n, rfl⟩ : ∃ n : Fin 101, c = n := ⟨⟨c.toNat, by omega⟩, (Int.toNat_of_nonneg hc.1).symm⟩
  by_cases hone : (s == 1.0) = true
  · have hproduct : (Binary64.ofInt n * s).toModel.unpack = (Binary64.ofInt n * 1.0).toModel.unpack := by
      rw [unpack_mul, beq_one_iff.mp hone, unpack_mul, unpack_one]
    obtain ⟨hbounds, hlt⟩ := percent_one n
    simp only [le_iff_unpack, lt_iff_unpack, hproduct] at hbounds hlt ⊢
    refine ⟨hbounds, hlt.trans ?_⟩
    rw [and_iff_left hone]
    exact not_congr (by omega)
  · have hbelow : Below (100 * 2 ^ 46) (-46) (Binary64.ofInt n * s).toModel.unpack := by
      rw [unpack_mul]
      refine below_pack (by decide) (scaled_below (Nat.le_of_lt_succ n.isLt) (isPercent_ofInt n)
        (upToOne_of_le h0 h1) fun h heq => hone (beq_one_iff.mpr heq))
    have hlt := lt_of_below hbelow unpack_hundred
    exact ⟨⟨zero_le_of_below hbelow, le_of_lt hlt⟩, fun _ h => hone h.2, fun _ => hlt⟩

end ContractRisk.Double
