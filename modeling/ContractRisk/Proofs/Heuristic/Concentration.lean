import ContractRisk.Heuristic
import ContractRisk.Proofs.Number.Fraction
import Mathlib.Algebra.BigOperators.Group.List.Basic
import Mathlib.Data.List.Sort

/-!
# Concentration of ownership

Ownership is concentrated if some holder has more than a fifth of the supply, or the ten largest holders have
more than seven tenths of it (`IsConcentrated`), which does not depend on the order of the holders. The
heuristic looks at the first holder and at the first ten.

* `ownershipConcentration_sound`   what it finds is concentrated, and all that is concentrated is found if the
  holders are listed in descending order; in some order of the holders it finds every concentration

`ownershipConcentration_misses` has two holders of whom the second one is the larger.
-/

namespace ContractRisk.Heuristic

/-! ## the largest numbers of a list -/

/-- the `n` largest numbers, or all of them if there are no more, in descending order -/
def largest (n : ℕ) (xs : List ℚ) : List ℚ := (xs.insertionSort (· ≥ ·)).take n

theorem largest_perm {xs ys : List ℚ} (h : xs.Perm ys) (n : ℕ) : largest n xs = largest n ys := by
  unfold largest
  have hperm : (xs.insertionSort (· ≥ ·)).Perm (ys.insertionSort (· ≥ ·)) :=
    (List.perm_insertionSort _ xs).trans (h.trans (List.perm_insertionSort _ ys).symm)
  rw [hperm.eq_of_pairwise' (List.pairwise_insertionSort _ xs) (List.pairwise_insertionSort _ ys)]

theorem largest_of_pairwise {xs : List ℚ} (h : xs.Pairwise (· ≥ ·)) (n : ℕ) : largest n xs = xs.take n := by
  unfold largest
  rw [h.insertionSort_eq]

theorem add_sum_take_le (x : ℚ) (n : ℕ) (xs : List ℚ) :
    x + (xs.take n).sum ≤ ((xs.orderedInsert (· ≥ ·) x).take (n + 1)).sum := by
  induction xs generalizing n with
  | nil => simp
  | cons y ys ih =>
    by_cases h : x ≥ y
    · rw [List.orderedInsert_cons_of_le _ _ h, List.take_succ_cons, List.sum_cons]
    · rw [List.orderedInsert_of_not_le _ _ h, List.take_succ_cons, List.sum_cons]
      cases n with
      | zero =>
        simp only [List.take_zero, List.sum_nil, add_zero]
        exact (not_le.mp h).le
      | succ n =>
        rw [List.take_succ_cons, List.sum_cons]
        linarith [ih n]

/-- the first numbers of a list are together no larger than its largest ones -/
theorem sum_take_le_largest (n : ℕ) (xs : List ℚ) : (xs.take n).sum ≤ (largest n xs).sum := by
  induction xs generalizing n with
  | nil => exact le_of_eq (by simp [largest])
  | cons x xs ih =>
    cases n with
    | zero => exact le_rfl
    | succ n =>
      rw [List.take_succ_cons, List.sum_cons]
      calc x + (xs.take n).sum ≤ x + (largest n xs).sum := by linarith [ih n]
        _ ≤ (largest (n + 1) (x :: xs)).sum := add_sum_take_le x n _

/-! ## concentration -/

/-- the shares of the holders, as they are listed -/
def shares (b : Bundle ℚ) : List ℚ := b.holders.map (·.percentage)

/-- one share is larger than a fifth, or the ten largest together are larger than seven tenths -/
def IsConcentrated (xs : List ℚ) : Prop := (∃ x ∈ xs, 20 < x) ∨ 70 < (largest 10 xs).sum

theorem isConcentrated_perm {xs ys : List ℚ} (h : xs.Perm ys) : IsConcentrated xs ↔ IsConcentrated ys := by
  unfold IsConcentrated
  rw [largest_perm h]
  simp only [h.mem_iff]

theorem topHolderLimit_eq : (topHolderLimit : ℚ) = 20 := by
  show (Rat.ofScientific 200 true 1 : ℚ) = 20
  norm_num

theorem topTenLimit_eq : (topTenLimit : ℚ) = 70 := by
  show (Rat.ofScientific 700 true 1 : ℚ) = 70
  norm_num

theorem lines_ne_nil_iff {p q : Prop} [Decidable p] [Decidable q] (s t : String) :
    (if p then [s] else []) ++ (if q then [t] else []) ≠ [] ↔ p ∨ q := by
  by_cases hp : p
  · rw [if_pos hp]
    exact iff_of_true (List.cons_ne_nil _ _) (.inl hp)
  · rw [if_neg hp, List.nil_append, ite_ne_right_iff, or_iff_right hp]
    exact and_iff_left (List.cons_ne_nil _ _)

/-- the heuristic looks at the first share and at the first ten -/
theorem ownershipConcentration_ne_nil_iff (b : Bundle ℚ) : ownershipConcentration b ≠ [] ↔
    (∃ x ∈ (shares b).head?, 20 < x) ∨ 70 < ((shares b).take 10).sum := by
  unfold ownershipConcentration shares
  cases b.holders with
  | nil => simp
  | cons top rest =>
    dsimp only
    rw [lines_ne_nil_iff, topHolderLimit_eq, topTenLimit_eq, sum_eq, List.map_take, List.map_cons,
      List.head?_cons]
    simp only [Option.mem_some_iff, exists_eq_left']
    rfl

theorem isConcentrated_of_ne_nil {b : Bundle ℚ} (h : ownershipConcentration b ≠ []) :
    IsConcentrated (shares b) := by
  rcases (ownershipConcentration_ne_nil_iff b).mp h with ⟨x, hx, hlarge⟩ | hlarge
  · exact .inl ⟨x, List.mem_of_mem_head? hx, hlarge⟩
  · exact .inr (hlarge.trans_le (sum_take_le_largest 10 _))

theorem ne_nil_of_isConcentrated {b : Bundle ℚ} (hranked : (shares b).Pairwise (· ≥ ·))
    (h : IsConcentrated (shares b)) : ownershipConcentration b ≠ [] := by
  rw [ownershipConcentration_ne_nil_iff, ← largest_of_pairwise hranked]
  refine h.imp_left ?_
  rintro ⟨x, hx, hlarge⟩
  cases hb : shares b with
  | nil =>
    rw [hb] at hx
    exact nomatch hx
  | cons y ys =>
    rw [hb] at hx hranked
    refine ⟨y, rfl, ?_⟩
    rcases List.mem_cons.mp hx with rfl | hmem
    · exact hlarge
    · exact hlarge.trans_le ((List.pairwise_cons.mp hranked).1 x hmem)

/-- the same holders in descending order -/
theorem exists_ranked (b : Bundle ℚ) :
    ∃ b' : Bundle ℚ, b'.holders.Perm b.holders ∧ (shares b').Pairwise (· ≥ ·) := by
  let ranked := b.holders.insertionSort fun h k => h.percentage ≥ k.percentage
  refine ⟨{ b with tokenMetrics := some ⟨ranked, none⟩ }, List.perm_insertionSort _ _, ?_⟩
  show (ranked.map (·.percentage)).Pairwise (· ≥ ·)
  have hshares : ranked.map (·.percentage) = (shares b).insertionSort (· ≥ ·) :=
    List.map_insertionSort _ _ _ _ fun _ _ _ _ => Iff.rfl
  rw [hshares]
  exact List.pairwise_insertionSort _ _

/-- **What the heuristic finds.** It looks at the first holder and at the first ten. Whatever the order, it
finds nothing that is not concentrated; if the holders are listed in descending order, it finds all that is;
and ownership is concentrated exactly if it is found in some order of the holders. -/
theorem ownershipConcentration_sound (b : Bundle ℚ) :
    (ownershipConcentration b ≠ [] ↔
      (∃ x ∈ (shares b).head?, 20 < x) ∨ 70 < ((shares b).take 10).sum) ∧
    (ownershipConcentration b ≠ [] → IsConcentrated (shares b)) ∧
    (∀ b' : Bundle ℚ, b'.holders.Perm b.holders → (shares b').Pairwise (· ≥ ·) →
      (ownershipConcentration b' ≠ [] ↔ IsConcentrated (shares b))) ∧
    ((∃ b' : Bundle ℚ, b'.holders.Perm b.holders ∧ ownershipConcentration b' ≠ []) ↔
      IsConcentrated (shares b)) := by
  have hshares {b' : Bundle ℚ} (hperm : b'.holders.Perm b.holders) :
      IsConcentrated (shares b') ↔ IsConcentrated (shares b) := isConcentrated_perm (hperm.map _)
  have hranked (b' : Bundle ℚ) (hperm : b'.holders.Perm b.holders)
      (hdescending : (shares b').Pairwise (· ≥ ·)) :
      ownershipConcentration b' ≠ [] ↔ IsConcentrated (shares b) := by
    rw [← hshares hperm]
    exact ⟨isConcentrated_of_ne_nil, ne_nil_of_isConcentrated hdescending⟩
  refine ⟨ownershipConcentration_ne_nil_iff b, isConcentrated_of_ne_nil, hranked, ?_, fun h => ?_⟩
  · rintro ⟨b', hperm, hfound⟩
    exact (hshares hperm).mp (isConcentrated_of_ne_nil hfound)
  · obtain ⟨b', hperm, hdescending⟩ := exists_ranked b
    exact ⟨b', hperm, (hranked b' hperm hdescending).mpr h⟩

/-- a bundle of nothing but holders with these shares -/
def held (xs : List ℚ) : Bundle ℚ :=
  ⟨"0xabc", "eth", none, none, none, none, none, some ⟨xs.map fun x => ⟨"", x⟩, none⟩, none⟩

/-- The second of two holders has 30 percent: nothing is found, and in the other order it is. -/
theorem ownershipConcentration_misses :
    (held [10, 30]).holders.Perm (held [30, 10]).holders ∧ IsConcentrated (shares (held [10, 30])) ∧
      ownershipConcentration (held [10, 30]) = [] ∧ ownershipConcentration (held [30, 10]) ≠ [] := by
  refine ⟨.swap _ _ _, .inl ⟨30, .tail _ (.head _), by norm_num⟩, ?_, ?_⟩
  · by_contra hfound
    rcases (ownershipConcentration_ne_nil_iff _).mp hfound with ⟨x, hx, hlarge⟩ | hlarge
    · obtain rfl : 10 = x := Option.some.inj hx
      norm_num at hlarge
    · have hsum : ((shares (held [10, 30])).take 10).sum = 10 + (30 + 0) := rfl
      rw [hsum] at hlarge
      norm_num at hlarge
  · exact (ownershipConcentration_ne_nil_iff _).mpr (.inl ⟨30, rfl, by norm_num⟩)

end ContractRisk.Heuristic
