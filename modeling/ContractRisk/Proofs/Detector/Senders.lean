import ContractRisk.Detector.Trading
import Mathlib.Data.List.Induction

/-!
# The most frequent sender

Among several senders of the same count, `top?` takes the one that comes first, so that its choice depends
on the order of the transactions. Its count does not, and neither does the choice where one sender has more
than half of all.

* `top?_counts`       what is taken is a sender with its count, which is the highest one;
* `IsTop.majority`    a sender with a majority is taken in every order.
-/

namespace ContractRisk.Trading

/-- a sender that none exceeds, with its count -/
structure IsTop (ss : List String) (t : String × Nat) : Prop where
  mem : t.1 ∈ ss
  count : t.2 = ss.count t.1
  highest : ∀ s, ss.count s ≤ t.2

theorem top?_append (cs : List (String × Nat)) (c : String × Nat) :
    top? (cs ++ [c]) = some ((top? cs).elim c fun best => if best.2 < c.2 then c else best) := by
  unfold top?
  rw [List.foldl_append, List.foldl_cons, List.foldl_nil]
  cases cs.foldl _ none with
  | none => rfl
  | some best => exact (apply_ite some _ _ _).symm

theorem top?_spec (cs : List (String × Nat)) :
    (top? cs = none ∧ cs = []) ∨ ∃ t, top? cs = some t ∧ t ∈ cs ∧ ∀ c ∈ cs, c.2 ≤ t.2 := by
  -- the list is read from the left, so the induction takes it apart at its end
  induction cs using List.reverseRecOn with
  | nil => exact .inl ⟨rfl, rfl⟩
  | append_singleton cs c ih =>
    right
    rw [top?_append]
    rcases ih with ⟨hnone, rfl⟩ | ⟨best, hbest, hmem, hmax⟩
    · rw [hnone]
      exact ⟨c, rfl, List.mem_singleton_self c, by simp⟩
    · rw [hbest, Option.elim_some]
      by_cases hlt : best.2 < c.2
      · have hbefore : ∀ d ∈ cs, d.2 ≤ c.2 := fun d hd => Nat.le_trans (hmax d hd) (Nat.le_of_lt hlt)
        rw [if_pos hlt]
        exact ⟨c, rfl, List.mem_append_right _ (List.mem_singleton_self c),
          List.forall_mem_append.mpr ⟨hbefore, List.forall_mem_singleton.mpr (Nat.le_refl _)⟩⟩
      · rw [if_neg hlt]
        exact ⟨best, rfl, List.mem_append_left _ hmem,
          List.forall_mem_append.mpr ⟨hmax, List.forall_mem_singleton.mpr (Nat.le_of_not_lt hlt)⟩⟩

theorem mem_counts {ss : List String} {c : String × Nat} :
    c ∈ counts ss ↔ c.1 ∈ ss ∧ c.2 = ss.count c.1 := by
  unfold counts
  rw [List.mem_map]
  constructor
  · rintro ⟨s, hs, rfl⟩
    exact ⟨List.mem_eraseDups.mp hs, rfl⟩
  · rintro ⟨hmem, hcount⟩
    exact ⟨c.1, List.mem_eraseDups.mpr hmem, Prod.ext rfl hcount.symm⟩

theorem top?_counts (ss : List String) :
    (top? (counts ss) = none ∧ ss = []) ∨ ∃ t, top? (counts ss) = some t ∧ IsTop ss t := by
  rcases top?_spec (counts ss) with ⟨hnone, hnil⟩ | ⟨t, ht, hmem, hmax⟩
  · refine .inl ⟨hnone, List.eq_nil_iff_forall_not_mem.mpr fun s hs => ?_⟩
    have hcount : (s, ss.count s) ∈ counts ss := mem_counts.mpr ⟨hs, rfl⟩
    rw [hnil] at hcount
    exact nomatch hcount
  · obtain ⟨hsender, hcount⟩ := mem_counts.mp hmem
    refine .inr ⟨t, ht, hsender, hcount, fun s => ?_⟩
    by_cases hs : s ∈ ss
    · exact hmax (s, ss.count s) (mem_counts.mpr ⟨hs, rfl⟩)
    · rw [List.count_eq_zero_of_not_mem hs]
      exact Nat.zero_le _

namespace IsTop
variable {ss ss' : List String} {t t' : String × Nat}

theorem le_length (h : IsTop ss t) : t.2 ≤ ss.length := h.count ▸ List.count_le_length

/-- the highest count is the same in every order -/
theorem count_eq (h : IsTop ss t) (h' : IsTop ss' t') (hp : ss.Perm ss') : t.2 = t'.2 := by
  have hle : ss.count t.1 ≤ t'.2 := hp.count_eq t.1 ▸ h'.highest t.1
  have hge : ss'.count t'.1 ≤ t.2 := hp.count_eq t'.1 ▸ h.highest t'.1
  rw [← h.count] at hle
  rw [← h'.count] at hge
  exact Nat.le_antisymm hle hge

/-- two senders together send no more than all -/
theorem count_add_count_le {s s' : String} (hne : s ≠ s') (ss : List String) :
    ss.count s + ss.count s' ≤ ss.length := by
  induction ss with
  | nil => exact Nat.le_refl 0
  | cons x ss ih =>
    rw [List.count_cons, List.count_cons, List.length_cons]
    by_cases hx : x = s
    · subst hx
      simp [hne]
      omega
    · simp [hx]
      split <;> omega

theorem majority (h : IsTop ss t) (h' : IsTop ss' t') (hp : ss.Perm ss')
    (hmost : ss.length < 2 * t.2) : t = t' := by
  have hcount := h.count_eq h' hp
  refine Prod.ext ?_ hcount
  by_contra hne
  have hboth := count_add_count_le hne ss
  rw [← h.count, hp.count_eq t'.1, ← h'.count] at hboth
  omega

end IsTop

theorem length_senders_le {α : Type} (ts : List (TransactionRecord α)) :
    (senders ts).length ≤ ts.length := List.length_filterMap_le _ _

end ContractRisk.Trading
