import ContractRisk.Proofs.Text.AsciiCase
import ContractRisk.Proofs.Text.Trimming

/-!
# Texts in lower case

What has been put in lower case stays as it is when it is put in lower case again, as a whole and in parts:
every character of it `isLow` (`isLow_of_mem_lowerChars`), and a text of such characters is not changed
(`lowerChars_of_isLow`). No blank comes from a character that is none, so that a text without blanks at its
ends has none there in lower case either (`IsTrimmed.lowerChars`).
-/

namespace ContractRisk.Text

/-! ## characters -/

/-- a character that stays as it is in lower case, wherever it stands -/
def isLow (c : Char) : Bool :=
  if c.toNat < 128 then c.toLower == c else c != 'Σ' && c != 'İ' && lowerChar c == c

theorem isLow_ascii {c : Char} (h : c.toNat < 128) : isLow c = (c.toLower == c) := if_pos h

theorem isLow_not_ascii {c : Char} (h : ¬ c.toNat < 128) :
    isLow c = (c != 'Σ' && c != 'İ' && lowerChar c == c) := if_neg h

theorem lowerAt_of_isLow {c : Char} (h : isLow c = true) (before after : List Char) :
    lowerAt before c after = [c] := by
  by_cases hc : c.toNat < 128
  · rw [isLow_ascii hc, beq_iff_eq] at h
    rw [lowerAt_ascii hc, h]
  · rw [isLow_not_ascii hc, Bool.and_eq_true, Bool.and_eq_true, bne_iff_ne, bne_iff_ne, beq_iff_eq] at h
    obtain ⟨⟨hsigma, hdotted⟩, hlow⟩ := h
    unfold lowerAt
    rw [if_neg hc, if_neg hsigma, if_neg hdotted, hlow]

/-- an image in the runs, with the run and the place in it -/
theorem lowerIn_eq_some {runs : Array (Nat × Nat × Nat × Nat)} {n lo hi image : Nat}
    (h : lowerIn runs n lo hi = some image) : ∃ run ∈ runs.toList,
      ∃ k < (run.2.1 - run.1) / run.2.2.1 + 1, image = run.2.2.2 + k * run.2.2.1 := by
  fun_induction lowerIn runs n lo hi with
  | case1 lo hi _ mid first last step start _ _ ih => exact ih h
  | case2 lo hi _ mid first last step start _ _ _ ih => exact ih h
  | case3 lo hi _ mid first last step start hrun hfirst hlast hstep =>
    have hsize : mid < runs.size := by
      by_contra hsize
      rw [Array.getD_eq_getD_getElem?, Array.getElem?_eq_none (Nat.le_of_not_lt hsize), Option.getD_none,
        Prod.mk.injEq, Prod.mk.injEq] at hrun
      omega
    have hmem : (first, last, step, start) ∈ runs.toList := by
      rw [← hrun, Array.getD_eq_getD_getElem?, Array.getElem?_eq_getElem hsize, Option.getD_some]
      exact Array.getElem_mem_toList hsize
    refine ⟨_, hmem, (n - first) / step, ?_, ?_⟩
    · have hle : (n - first) / step ≤ (last - first) / step := Nat.div_le_div_right (by omega)
      exact Nat.lt_succ_of_le hle
    · rw [Nat.div_mul_cancel (Nat.dvd_of_mod_eq_zero hstep)]
      exact (Option.some.inj h).symm
  | case4 => exact nomatch h
  | case5 => exact nomatch h

theorem lowerRuns_images : ∀ run ∈ lowerRuns.toList, ∀ k < (run.2.1 - run.1) / run.2.2.1 + 1,
    isLow (Char.ofNat (run.2.2.2 + k * run.2.2.1)) = true ∧
      isBlank (Char.ofNat (run.2.2.2 + k * run.2.2.1)) = false := by
  decide +kernel

theorem lowerChar_eq_self_or (c : Char) (h : ¬ c.toNat < 128) :
    lowerChar c = c ∨ isLow (lowerChar c) = true ∧ isBlank (lowerChar c) = false := by
  unfold lowerChar
  rw [if_neg h]
  cases hrun : lowerIn lowerRuns c.toNat 0 lowerRuns.size with
  | none => exact .inl rfl
  | some image =>
    obtain ⟨run, hmem, k, hk, rfl⟩ := lowerIn_eq_some hrun
    exact .inr (lowerRuns_images run hmem k hk)

theorem isBlank_toLower (c : Char) : isBlank c.toLower = isBlank c := by
  by_cases h : c.toNat < 128
  · exact forall_ascii (P := fun c => isBlank c.toLower = isBlank c) (by decide +kernel) h
  · rw [toLower_of_not_ascii h]

theorem isLow_toLower {c : Char} (h : c.toNat < 128) : isLow c.toLower = true := by
  rw [isLow_ascii ((toLower_ascii_iff c).mpr h), toLower_toLower, beq_self_eq_true]

/-- what comes of a character is in lower case, and no blank unless the character is one -/
theorem mem_lowerAt {before after : List Char} {c d : Char} (h : d ∈ lowerAt before c after) :
    isLow d = true ∧ (isBlank c = false → isBlank d = false) := by
  by_cases hc : c.toNat < 128
  · rw [lowerAt_ascii hc, List.mem_singleton] at h
    subst h
    exact ⟨isLow_toLower hc, fun hblank => (isBlank_toLower c).trans hblank⟩
  unfold lowerAt at h
  rw [if_neg hc] at h
  by_cases hsigma : c = 'Σ'
  · rw [if_pos hsigma, List.mem_singleton] at h
    have hd : d = 'ς' ∨ d = 'σ' := by
      rw [h]
      split <;> simp
    have hform : isLow d = true ∧ isBlank d = false := by rcases hd with rfl | rfl <;> decide +kernel
    exact hform.imp_right fun hblank _ => hblank
  rw [if_neg hsigma] at h
  by_cases hdotted : c = 'İ'
  · rw [if_pos hdotted, List.mem_cons, List.mem_singleton] at h
    have hform : isLow d = true ∧ isBlank d = false := by rcases h with rfl | rfl <;> decide +kernel
    exact hform.imp_right fun hblank _ => hblank
  rw [if_neg hdotted, List.mem_singleton] at h
  subst h
  rcases lowerChar_eq_self_or c hc with hself | ⟨hlow, hblank⟩
  · rw [hself]
    refine ⟨?_, id⟩
    rw [isLow_not_ascii hc, bne_iff_ne.mpr hsigma, bne_iff_ne.mpr hdotted, hself, beq_self_eq_true]
    rfl
  · exact ⟨hlow, fun _ => hblank⟩

theorem lowerAt_ne_nil (before : List Char) (c : Char) (after : List Char) :
    lowerAt before c after ≠ [] := by
  unfold lowerAt
  split_ifs <;> exact List.cons_ne_nil _ _

/-! ## texts -/

theorem isLow_of_mem_lowerFrom {before cs : List Char} {d : Char} (h : d ∈ lowerFrom before cs) :
    isLow d = true := by
  induction cs generalizing before with
  | nil => exact nomatch h
  | cons c r ih =>
    rw [lowerFrom_cons, List.mem_append] at h
    exact h.elim (fun h => (mem_lowerAt h).1) ih

theorem isLow_of_mem_lowerChars {cs : List Char} : ∀ d ∈ lowerChars cs, isLow d = true :=
  fun _ => isLow_of_mem_lowerFrom

/-- what is in lower case already stays in front of more text, which may depend on it -/
theorem lowerFrom_append_of_isLow {cs : List Char} (h : ∀ c ∈ cs, isLow c = true) (before ds : List Char) :
    lowerFrom before (cs ++ ds) = cs ++ lowerFrom (cs.reverse ++ before) ds := by
  have happend := lowerFrom_append (f := id) (fun c hc => lowerAt_of_isLow (h c hc)) before ds
  rwa [List.map_id] at happend

theorem lowerChars_of_isLow {cs : List Char} (h : ∀ c ∈ cs, isLow c = true) : lowerChars cs = cs := by
  have happend := lowerFrom_append_of_isLow h [] []
  rwa [List.append_nil, lowerFrom, List.append_nil] at happend

theorem lower_of_isLow {s : String} (h : ∀ c ∈ s.toList, isLow c = true) : lower s = s := by
  unfold lower
  rw [lowerChars_of_isLow h, String.ofList_toList]

/-! ## blanks at the ends -/

theorem mem_head?_lowerFrom {before cs : List Char} {d : Char} (h : d ∈ (lowerFrom before cs).head?) :
    ∃ c ∈ cs.head?, ∃ before after, d ∈ lowerAt before c after := by
  cases cs with
  | nil => exact nomatch h
  | cons c r =>
    rw [lowerFrom_cons, List.head?_append_of_ne_nil _ (lowerAt_ne_nil before c r)] at h
    exact ⟨c, rfl, before, r, List.mem_of_mem_head? h⟩

theorem mem_getLast?_lowerFrom {before cs : List Char} {d : Char}
    (h : d ∈ (lowerFrom before cs).getLast?) :
    ∃ c ∈ cs.getLast?, ∃ before after, d ∈ lowerAt before c after := by
  induction cs generalizing before with
  | nil => exact nomatch h
  | cons c r ih =>
    rw [lowerFrom_cons] at h
    cases r with
    | nil =>
      rw [lowerFrom_nil, List.append_nil] at h
      exact ⟨c, rfl, before, [], List.mem_of_mem_getLast? h⟩
    | cons e r =>
      have hne : lowerFrom (c :: before) (e :: r) ≠ [] :=
        List.append_ne_nil_of_left_ne_nil (lowerAt_ne_nil _ e r) _
      rw [List.getLast?_append_of_ne_nil _ hne] at h
      obtain ⟨x, hx, hd⟩ := ih h
      exact ⟨x, by rwa [List.getLast?_cons_cons], hd⟩

theorem IsTrimmed.lowerChars {cs : List Char} (h : IsTrimmed cs) : IsTrimmed (lowerChars cs) := by
  constructor
  · intro d hd
    obtain ⟨c, hc, _, _, hmem⟩ := mem_head?_lowerFrom hd
    exact (mem_lowerAt hmem).2 (h.1 c hc)
  · intro d hd
    obtain ⟨c, hc, _, _, hmem⟩ := mem_getLast?_lowerFrom hd
    exact (mem_lowerAt hmem).2 (h.2 c hc)

end ContractRisk.Text
