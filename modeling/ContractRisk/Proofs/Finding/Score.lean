import ContractRisk.Proofs.Number.Fraction
import Mathlib.Algebra.BigOperators.Group.List.Basic
import Mathlib.Tactic.Ring

/-!
# The composite score of a list of findings

Over exact fractions the score of findings is the mean of their levels, where the `level` of a severity is
four times its points: 12 for a low finding and 100 for a critical one. All laws of the score come of that.

* `RiskProfile.score_mul_length`   the score, once for each finding, is the sum of the levels;
* `RiskProfile.scoreOf_concat`     one more finding moves the score by its share of the distance to its level;
* `RiskProfile.score_laws`         the range of the score, what it does not depend on, and what moves it.
-/

namespace ContractRisk

/-! ## levels -/

namespace Severity

/-- the score of findings of this severity alone -/
def level (s : Severity) : ℚ := 4 * s.points

theorem points_bounds (s : Severity) : 3 ≤ s.points ∧ s.points ≤ 25 := by
  cases s <;> decide

theorem points_eq_iff (s : Severity) : s.points = 25 ↔ s = critical := by
  cases s <;> decide

theorem points_lt {s t : Severity} (h : s.rank < t.rank) : s.points < t.points := by
  revert h
  cases s <;> cases t <;> decide

end Severity

namespace RiskProfile

/-! ## points -/

theorem points_cons (s : Severity) (ss : List Severity) : points (s :: ss) = s.points + points ss := rfl

theorem points_eq_sum (ss : List Severity) : points ss = (ss.map Severity.points).sum := by
  induction ss with
  | nil => rfl
  | cons s ss ih => rw [points_cons, ih, List.map_cons, List.sum_cons]

theorem points_append (ss ts : List Severity) : points (ss ++ ts) = points ss + points ts := by
  rw [points_eq_sum, points_eq_sum, points_eq_sum, List.map_append, List.sum_append]

theorem points_singleton (s : Severity) : points [s] = s.points := rfl

theorem points_perm {ss ts : List Severity} (h : ss.Perm ts) : points ss = points ts := by
  rw [points_eq_sum, points_eq_sum, (h.map Severity.points).sum_eq]

theorem points_bounds (ss : List Severity) : 3 * ss.length ≤ points ss ∧ points ss ≤ 25 * ss.length := by
  induction ss with
  | nil => exact ⟨Nat.le_refl 0, Nat.le_refl 0⟩
  | cons s ss ih =>
    have hs := s.points_bounds
    rw [points_cons, List.length_cons]
    omega

/-- only critical findings give all the points there could be -/
theorem points_eq_most_iff (ss : List Severity) :
    points ss = 25 * ss.length ↔ ∀ s ∈ ss, s = .critical := by
  induction ss with
  | nil => exact iff_of_true rfl fun _ hs => nomatch hs
  | cons s ss ih =>
    obtain ⟨_, hle⟩ := points_bounds ss
    obtain ⟨_, hs⟩ := s.points_bounds
    rw [List.forall_mem_cons, ← ih, ← s.points_eq_iff, List.length_cons, points_cons]
    omega

/-! ## the score as a mean -/

section
variable {ss : List Severity}

theorem length_pos (h : ss ≠ []) : (0 : ℚ) < ss.length := by
  exact_mod_cast List.length_pos_iff.mpr h

/-- the share of the points is in the range that the score is cut to -/
theorem scoreOf_eq_share (h : ss ≠ []) :
    (scoreOf ss : ℚ) = (points ss : ℚ) / (ss.length * Severity.maxPoints) * 100 := by
  have hpos := length_pos h
  have hle : (points ss : ℚ) ≤ 25 * ss.length := by exact_mod_cast (points_bounds ss).2
  have hmax : ((ss.length * 25 : ℕ) : ℚ) = ss.length * Severity.maxPoints := by
    rw [Nat.cast_mul]
    rfl
  have hmost : (points ss : ℚ) / (ss.length * Severity.maxPoints) * 100 ≤ 100 := by
    rw [← hmax, div_mul_eq_mul_div, div_le_iff₀ (by push_cast; linarith)]
    push_cast
    linarith
  have hleast : (0 : ℚ) ≤ (points ss : ℚ) / (ss.length * Severity.maxPoints) * 100 := by positivity
  rw [scoreOf_eq h, hmax, min_eq_right hmost, max_eq_right hleast]

theorem score_mul_length (h : ss ≠ []) : (scoreOf ss : ℚ) * ss.length = 4 * points ss := by
  have hpos := (length_pos h).ne'
  have hmax : ((Severity.maxPoints : ℕ) : ℚ) = 25 := rfl
  rw [scoreOf_eq_share h, hmax]
  field_simp
  ring

theorem scoreOf_eq_mean (h : ss ≠ []) : (scoreOf ss : ℚ) = 4 * points ss / ss.length := by
  rw [← score_mul_length h, mul_div_cancel_right₀ _ (length_pos h).ne']

theorem scoreOf_bounds (h : ss ≠ []) : (12 : ℚ) ≤ scoreOf ss ∧ (scoreOf ss : ℚ) ≤ 100 := by
  have hpos := length_pos h
  have hle : (3 : ℚ) * ss.length ≤ points ss := by exact_mod_cast (points_bounds ss).1
  have hge : (points ss : ℚ) ≤ 25 * ss.length := by exact_mod_cast (points_bounds ss).2
  rw [scoreOf_eq_mean h, le_div_iff₀ hpos, div_le_iff₀ hpos]
  constructor <;> linarith

theorem scoreOf_eq_hundred_iff (h : ss ≠ []) :
    (scoreOf ss : ℚ) = 100 ↔ ∀ s ∈ ss, s = .critical := by
  have hcast : (4 * points ss : ℚ) = 100 * ss.length ↔ points ss = 25 * ss.length := by
    norm_cast
    omega
  rw [← points_eq_most_iff, scoreOf_eq_mean h, div_eq_iff (length_pos h).ne', hcast]

theorem scoreOf_perm {ts : List Severity} (h : ss.Perm ts) : (scoreOf ts : ℚ) = scoreOf ss := by
  by_cases hss : ss = []
  · subst hss
    rw [List.nil_perm.mp h]
  · have hts : ts ≠ [] := fun hts => hss (List.perm_nil.mp (hts ▸ h))
    rw [scoreOf_eq_mean hss, scoreOf_eq_mean hts, points_perm h, h.length_eq]

theorem scoreOf_twice (h : ss ≠ []) : (scoreOf (ss ++ ss) : ℚ) = scoreOf ss := by
  have hpos := (length_pos h).ne'
  have hne : ss ++ ss ≠ [] := List.append_ne_nil_of_left_ne_nil h ss
  rw [scoreOf_eq_mean h, scoreOf_eq_mean hne, points_append, List.length_append]
  push_cast
  field_simp

/-- a finding of higher severity gives more points, and there are as many findings as before -/
theorem scoreOf_lt_of_raised {before after : List Severity} {s t : Severity} (h : s.rank < t.rank) :
    (scoreOf (before ++ s :: after) : ℚ) < scoreOf (before ++ t :: after) := by
  have hne : ∀ r, before ++ r :: after ≠ [] := fun r =>
    List.append_ne_nil_of_right_ne_nil before (List.cons_ne_nil r after)
  have hlength : (before ++ s :: after).length = (before ++ t :: after).length := by
    rw [List.length_append, List.length_append, List.length_cons, List.length_cons]
  have hpoints : (points (before ++ s :: after) : ℚ) < points (before ++ t :: after) := by
    have hlt := Severity.points_lt h
    rw [points_append, points_append, show points (s :: after) = s.points + points after from rfl,
      show points (t :: after) = t.points + points after from rfl]
    exact_mod_cast (by omega)
  rw [scoreOf_eq_mean (hne s), scoreOf_eq_mean (hne t), hlength]
  exact div_lt_div_of_pos_right (by linarith) (length_pos (hne t))

/-- one more finding counts as much as each of the others -/
theorem scoreOf_concat (h : ss ≠ []) (s : Severity) :
    (scoreOf (ss ++ [s]) : ℚ) = scoreOf ss + (s.level - scoreOf ss) / (ss.length + 1) := by
  have hpos := (length_pos h).ne'
  have hne : ss ++ [s] ≠ [] := List.append_ne_nil_of_left_ne_nil h [s]
  have hnext : (ss.length : ℚ) + 1 ≠ 0 := by positivity
  rw [scoreOf_eq_mean h, scoreOf_eq_mean hne, points_append, points_singleton, List.length_append,
    List.length_singleton, Severity.level]
  push_cast
  field_simp
  ring

end

/-- what is moved by a part of the distance to a level stays on its side of it -/
theorem moves_toward {x l n : ℚ} (hn : 0 < n) :
    (x < l → x < x + (l - x) / (n + 1) ∧ x + (l - x) / (n + 1) < l) ∧
      (l < x → l < x + (l - x) / (n + 1) ∧ x + (l - x) / (n + 1) < x) ∧
      (x = l → x + (l - x) / (n + 1) = l) := by
  have hpos : 0 < n + 1 := by linarith
  have hrest : l - (x + (l - x) / (n + 1)) = (l - x) * n / (n + 1) := by
    field_simp
    ring
  refine ⟨fun hlt => ?_, fun hlt => ?_, fun heq => ?_⟩
  · have hmove : 0 < (l - x) / (n + 1) := div_pos (by linarith) hpos
    have hleft : 0 < (l - x) * n / (n + 1) := div_pos (mul_pos (by linarith) hn) hpos
    constructor <;> linarith
  · have hmove : (l - x) / (n + 1) < 0 := div_neg_of_neg_of_pos (by linarith) hpos
    have hleft : (l - x) * n / (n + 1) < 0 :=
      div_neg_of_neg_of_pos (mul_neg_of_neg_of_pos (by linarith) hn) hpos
    constructor <;> linarith
  · rw [heq, sub_self, zero_div, add_zero]

/-! ## findings -/

/-- **The laws of the composite score.** It is the share of the points and is never cut; it is the same in
every order and for twice the findings; and it follows the findings, up with each that becomes more severe,
and with each that is added toward the level of that finding, never to it. -/
theorem score_laws (fs : List (Finding ℚ)) (hfs : fs ≠ []) :
    (12 ≤ (ofFindings fs).score ∧ (ofFindings fs).score ≤ 100 ∧
      (ofFindings fs).score =
        (points (fs.map (·.severity)) : ℚ) / (fs.length * Severity.maxPoints) * 100) ∧
    ((ofFindings fs).score = 100 ↔ ∀ f ∈ fs, f.severity = .critical) ∧
    (∀ gs, fs.Perm gs → (ofFindings gs).score = (ofFindings fs).score) ∧
    (ofFindings (fs ++ fs)).score = (ofFindings fs).score ∧
    (∀ before f after g, fs = before ++ f :: after → f.severity.rank < g.severity.rank →
      (ofFindings fs).score < (ofFindings (before ++ g :: after)).score) ∧
    ∀ f,
      ((ofFindings fs).score < f.severity.level →
        (ofFindings fs).score < (ofFindings (fs ++ [f])).score ∧
          (ofFindings (fs ++ [f])).score < f.severity.level) ∧
      (f.severity.level < (ofFindings fs).score →
        f.severity.level < (ofFindings (fs ++ [f])).score ∧
          (ofFindings (fs ++ [f])).score < (ofFindings fs).score) ∧
      ((ofFindings fs).score = f.severity.level →
        (ofFindings (fs ++ [f])).score = f.severity.level) := by
  have hss : fs.map (·.severity) ≠ [] := mt List.map_eq_nil_iff.mp hfs
  have hscore (gs : List (Finding ℚ)) : (ofFindings gs).score = scoreOf (gs.map (·.severity)) := rfl
  simp only [hscore, List.map_append, List.map_cons, List.map_nil]
  obtain ⟨hleast, hmost⟩ := scoreOf_bounds hss
  have hshare := scoreOf_eq_share hss
  rw [List.length_map] at hshare
  refine ⟨⟨hleast, hmost, hshare⟩, ?_, fun gs hgs => scoreOf_perm (hgs.map _), scoreOf_twice hss, ?_,
    fun f => ?_⟩
  · rw [scoreOf_eq_hundred_iff hss, List.forall_mem_map]
  · rintro before f after g rfl hrank
    rw [List.map_append, List.map_cons]
    exact scoreOf_lt_of_raised hrank
  · rw [scoreOf_concat hss]
    exact moves_toward (length_pos hss)

/-- a finding with this severity -/
def sampleFinding (s : Severity) : Finding ℚ :=
  ⟨"f", "X", s, 50, "t", "d", [], [], "", .honeypot, 1, .rule, []⟩

/-- a low finding moves the score of a critical and a medium one down, but not to its own level -/
theorem score_laws_lowered :
    let fs := [sampleFinding .critical, sampleFinding .medium]
    fs ≠ [] ∧ (ofFindings fs).score = 66 ∧ (ofFindings (fs ++ [sampleFinding .low])).score < 66 ∧
      12 < (ofFindings (fs ++ [sampleFinding .low])).score := by
  intro fs
  obtain ⟨⟨_, _, hshare⟩, _, _, _, _, hadded⟩ := score_laws fs (List.cons_ne_nil _ _)
  have hscore : (ofFindings fs).score = 66 := by
    rw [hshare]
    show ((33 : ℕ) : ℚ) / ((2 : ℕ) * (25 : ℕ)) * 100 = 66
    norm_num
  have hlevel : (sampleFinding .low).severity.level = 12 := by
    show (4 : ℚ) * (3 : ℕ) = 12
    norm_num
  obtain ⟨_, hdown, _⟩ := hadded (sampleFinding .low)
  rw [hscore, hlevel] at hdown
  obtain ⟨hbound, hlt⟩ := hdown (by norm_num)
  exact ⟨List.cons_ne_nil _ _, hscore, hlt, hbound⟩

end RiskProfile

end ContractRisk
