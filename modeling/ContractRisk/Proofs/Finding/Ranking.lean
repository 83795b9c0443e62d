import ContractRisk.Finding
import Mathlib.Data.List.Basic
import Mathlib.Order.Lattice

/-!
# Ranked findings

A list is a ranking of findings if it holds the same findings, no risk score is followed by a higher
one, and findings whose scores tie stand in their old order. `Orders key fs` says that the scores of
`fs` compare like the values of `key` in a linear order; it holds wherever no score is NaN.

* `IsRanking.unique`     there is at most one ranking of a list;
* `rank_isRanking`       `Finding.rank` gives it.
-/

namespace ContractRisk.Finding

variable {α : Type} [Scalar α]

/-- neither score is below the other -/
def ties (f g : Finding α) : Bool :=
  !decide (f.riskScore < g.riskScore) && !decide (g.riskScore < f.riskScore)

/-- `out` is the stable order of `fs` by descending risk score -/
structure IsRanking (fs out : List (Finding α)) : Prop where
  perm : out.Perm fs
  descending : out.Pairwise fun f g => ¬ f.riskScore < g.riskScore
  stable : ∀ f ∈ fs, out.filter (ties f) = fs.filter (ties f)

/-- the scores of these findings compare like the values of `key` -/
def Orders {κ : Type} [LT κ] (key : α → κ) (fs : List (Finding α)) : Prop :=
  ∀ f ∈ fs, ∀ g ∈ fs, f.riskScore < g.riskScore ↔ key f.riskScore < key g.riskScore

section
variable {κ : Type} [LinearOrder κ] {key : α → κ}

theorem Orders.of_subset {fs gs : List (Finding α)} (h : Orders key gs) (hs : fs ⊆ gs) :
    Orders key fs := fun f hf g hg => h f (hs hf) g (hs hg)

theorem Orders.ties_iff {fs : List (Finding α)} (h : Orders key fs) {f g : Finding α} (hf : f ∈ fs)
    (hg : g ∈ fs) : ties f g = true ↔ key f.riskScore = key g.riskScore := by
  simp only [ties, Bool.and_eq_true, Bool.not_eq_true', decide_eq_false_iff_not, h f hf g hg,
    h g hg f hf, not_lt]
  exact ⟨fun ⟨h1, h2⟩ => le_antisymm h2 h1, fun e => ⟨e.ge, e.le⟩⟩

/-! ## at most one ranking -/

/-- the first of a descending list ties with the first of each other descending order of it -/
private theorem Orders.ties_head {f g : Finding α} {xs ys : List (Finding α)}
    (h : Orders key (f :: xs)) (hp : (f :: xs).Perm (g :: ys))
    (hx : (f :: xs).Pairwise fun f g => ¬ f.riskScore < g.riskScore)
    (hy : (g :: ys).Pairwise fun f g => ¬ f.riskScore < g.riskScore) : ties f g = true := by
  have hirr : ∀ k ∈ f :: xs, ¬ k.riskScore < k.riskScore := fun k hk =>
    (h k hk k hk).not.mpr (lt_irrefl _)
  have hg : g ∈ f :: xs := hp.mem_iff.mpr List.mem_cons_self
  have hf : f ∈ g :: ys := hp.mem_iff.mp List.mem_cons_self
  have h1 : ¬ f.riskScore < g.riskScore := by
    rcases List.mem_cons.mp hg with rfl | hg'
    · exact hirr g hg
    · exact (List.pairwise_cons.mp hx).1 g hg'
  have h2 : ¬ g.riskScore < f.riskScore := by
    rcases List.mem_cons.mp hf with rfl | hf'
    · exact hirr f List.mem_cons_self
    · exact (List.pairwise_cons.mp hy).1 f hf'
  simp [ties, h1, h2]

private theorem Orders.eq_of_descending {xs ys : List (Finding α)} (h : Orders key xs)
    (hp : xs.Perm ys) (hx : xs.Pairwise fun f g => ¬ f.riskScore < g.riskScore)
    (hy : ys.Pairwise fun f g => ¬ f.riskScore < g.riskScore)
    (hs : ∀ f ∈ xs, xs.filter (ties f) = ys.filter (ties f)) : xs = ys := by
  induction xs generalizing ys with
  | nil => exact (List.nil_perm.mp hp).symm
  | cons f xs ih =>
    cases ys with
    | nil => exact absurd hp.length_eq (by simp)
    | cons g ys =>
      have hfg := h.ties_head hp hx hy
      have hff : ties f f = true := (h.ties_iff List.mem_cons_self List.mem_cons_self).mpr rfl
      -- the first finding of the tie class of `f` is the first one of both lists
      have hfirst := hs f List.mem_cons_self
      rw [List.filter_cons_of_pos hff, List.filter_cons_of_pos hfg] at hfirst
      obtain rfl : f = g := (List.cons.inj hfirst).1
      rw [ih (h.of_subset (List.subset_cons_self f xs)) hp.cons_inv hx.of_cons hy.of_cons]
      intro k hk
      have hk' := hs k (List.mem_cons_of_mem f hk)
      by_cases ht : ties k f = true
      · rw [List.filter_cons_of_pos ht, List.filter_cons_of_pos ht] at hk'
        exact (List.cons.inj hk').2
      · rwa [List.filter_cons_of_neg ht, List.filter_cons_of_neg ht] at hk'

theorem IsRanking.unique {fs xs ys : List (Finding α)} (h : Orders key fs) (hx : IsRanking fs xs)
    (hy : IsRanking fs ys) : xs = ys := by
  refine (h.of_subset hx.perm.subset).eq_of_descending (hx.perm.trans hy.perm.symm) hx.descending
    hy.descending fun f hf => ?_
  have hf' : f ∈ fs := hx.perm.subset hf
  rw [hx.stable f hf', hy.stable f hf']

/-! ## ranking by a sort -/

/-- the order of a sort by the values of `key` -/
private def byKey (key : α → κ) (f g : Finding α) : Bool := decide (key g.riskScore ≤ key f.riskScore)

omit [Scalar α] in
private theorem byKey_trans (f g k : Finding α) (h1 : byKey key f g = true)
    (h2 : byKey key g k = true) : byKey key f k = true :=
  decide_eq_true ((of_decide_eq_true h2).trans (of_decide_eq_true h1))

omit [Scalar α] in
private theorem byKey_total (f g : Finding α) : (byKey key f g || byKey key g f) = true := by
  simp only [byKey, Bool.or_eq_true, decide_eq_true_eq]
  exact le_total _ _

theorem Orders.rank_eq {fs : List (Finding α)} (h : Orders key fs) :
    rank fs = fs.mergeSort (byKey key) := by
  have hc : ∀ f ∈ fs, ∀ g ∈ fs, outranks f g = byKey key (id f) (id g) := by
    intro f hf g hg
    simp only [outranks, byKey, id_eq, h f hf g hg, ← not_lt]
    exact (decide_not (p := key f.riskScore < key g.riskScore)).symm
  have hm := List.map_mergeSort (f := id) hc
  rwa [List.map_id, List.map_id] at hm

theorem rank_perm (fs : List (Finding α)) : (rank fs).Perm fs := List.mergeSort_perm fs outranks

/-- sorting moves no finding past one that ties with it -/
theorem rank_isRanking {fs : List (Finding α)} (h : Orders key fs) : IsRanking fs (rank fs) where
  perm := rank_perm fs
  descending := by
    have hp : (fs.mergeSort (byKey key)).Pairwise fun f g => byKey key f g = true :=
      List.pairwise_mergeSort byKey_trans byKey_total fs
    rw [← h.rank_eq] at hp
    refine hp.imp_of_mem fun {f g} hf hg hfg => ?_
    rw [h f ((rank_perm fs).subset hf) g ((rank_perm fs).subset hg), not_lt]
    exact of_decide_eq_true hfg
  stable f hf := by
    have hties : (fs.filter (ties f)).Pairwise fun g k => byKey key g k = true := by
      refine List.pairwise_of_forall_mem_list fun g hg k hk => ?_
      obtain ⟨hg, hfg⟩ := List.mem_filter.mp hg
      obtain ⟨hk, hfk⟩ := List.mem_filter.mp hk
      have e := ((h.ties_iff hf hg).mp hfg).symm.trans ((h.ties_iff hf hk).mp hfk)
      exact decide_eq_true e.ge
    have hsub : (fs.filter (ties f)).Sublist (rank fs) := by
      rw [h.rank_eq]
      exact List.sublist_mergeSort byKey_trans byKey_total hties List.filter_sublist
    have hsub' := hsub.filter (ties f)
    rw [List.filter_filter, List.filter_congr (fun g _ => Bool.and_self (ties f g))] at hsub'
    exact (hsub'.eq_of_length ((rank_perm fs).filter (ties f)).length_eq.symm).symm

end

end ContractRisk.Finding
