import ContractRisk.Proofs.Detector.KnownBuilds
import ContractRisk.Proofs.Number.Fraction
import Mathlib.Algebra.Order.BigOperators.GroupWithZero.List

/-!
# Code with more code behind it

Code that is appended hides nothing. The scan finds what it has found before, in the same order, and perhaps
more: an instruction that reaches over the seam is no longer than what was left there without any selector
(`selectorsFrom_append`). So no template is lost, and over exact fractions the confidence does not fall.

* `confidence_eq`      the confidence is one minus the product of the misses, but no more than 0.99
* `appended_weakens_nothing`   the detector, for code that is appended to the text of the bytecode or to its
  normal form, and what its confidence depends on
-/

namespace ContractRisk.Bytecode

open Text (isLow isBlank lowerChars lowerFrom trimChars dropEnd)

/-! ## the scan over the seam -/

theorem length_of_pushed? {cs s : List Char} (h : pushed? cs = some s) : 10 ≤ cs.length := by
  obtain ⟨hpre, hlength, _⟩ := pushed?_eq_some_iff.mp h
  have hle := hpre.length_le
  rw [List.length_cons, List.length_cons, hlength] at hle
  exact hle

/-- ten characters say whether a selector is pushed in front -/
theorem pushed?_append {cs : List Char} (h : 10 ≤ cs.length) (ds : List Char) :
    pushed? (cs ++ ds) = pushed? cs := by
  refine Option.ext fun s => ?_
  rw [pushed?_eq_some_iff, pushed?_eq_some_iff]
  refine and_congr_left fun ⟨hlength, _⟩ => ⟨fun hpre => ?_, fun hpre => hpre.trans (List.prefix_append cs ds)⟩
  refine List.prefix_of_prefix_length_le hpre (List.prefix_append cs ds) ?_
  rw [List.length_cons, List.length_cons, hlength]
  exact h

theorem selectorsFrom_of_short {cs : List Char} (h : cs.length < 10) (skip : Nat) :
    selectorsFrom skip cs = [] := by
  induction cs generalizing skip with
  | nil => rfl
  | cons c r ih =>
    have hnone : pushed? (c :: r) = none := by
      by_contra hsome
      obtain ⟨s, hs⟩ := Option.ne_none_iff_exists'.mp hsome
      exact absurd (length_of_pushed? hs) (Nat.not_le_of_lt h)
    have hr : r.length < 10 := Nat.lt_of_succ_lt h
    rw [selectorsFrom_cons, hnone, ih hr]
    exact (congrArg (ite _ []) (ih hr 0)).trans (ite_self [])

/-- what is found in the code is found first in the code with more behind it, by induction on the scan -/
theorem selectorsFrom_append (skip : Nat) (cs ds : List Char) :
    selectorsFrom skip cs <+: selectorsFrom skip (cs ++ ds) := by
  induction cs generalizing skip with
  | nil => exact List.nil_prefix
  | cons c r ih =>
    by_cases hshort : (c :: r).length < 10
    · rw [selectorsFrom_of_short hshort]
      exact List.nil_prefix
    · have hsame := pushed?_append (Nat.le_of_not_lt hshort) ds
      rw [List.cons_append] at hsame ⊢
      rw [selectorsFrom_cons, selectorsFrom_cons, hsame]
      by_cases hskip : 0 < skip
      · rw [if_pos hskip, if_pos hskip]
        exact ih (skip - 1)
      · rw [if_neg hskip, if_neg hskip]
        cases pushed? (c :: r) with
        | none => exact ih 0
        | some s => exact List.cons_prefix_cons.mpr ⟨rfl, ih 9⟩

theorem selectors_subset {code code' : String}
    (h : selectorsFrom 0 code.toList ⊆ selectorsFrom 0 code'.toList) : selectors code ⊆ selectors code' := by
  intro t ht
  unfold selectors at ht ⊢
  rw [List.mem_eraseDups] at ht ⊢
  exact List.map_subset _ h ht

theorem selectors_append (code more : String) : selectors code ⊆ selectors (code ++ more) := by
  refine selectors_subset ?_
  rw [String.toList_append]
  exact (selectorsFrom_append 0 _ _).subset

/-! ## normal code with more behind it -/

theorem unmarked_append {cs : List Char} (h : 2 ≤ cs.length) (ds : List Char) :
    unmarked (cs ++ ds) = unmarked cs ++ ds := by
  by_cases hmark : ['0', 'x'] <+: cs
  · obtain ⟨r, rfl⟩ := hmark
    rfl
  · have hmark' : ¬ ['0', 'x'] <+: cs ++ ds := fun hpre =>
      hmark (List.prefix_of_prefix_length_le hpre (List.prefix_append cs ds) h)
    rw [unmarked_eq_self hmark, unmarked_eq_self hmark']

/-- what is found in normal code is found in the normal form of any text that starts with it -/
theorem selectors_normalize_append (text more : String) :
    selectors (normalize (normalize text)) ⊆ selectors (normalize (normalize text ++ more)) := by
  refine selectors_subset ?_
  rw [toList_normalize (normalize text), lowerChars_trimChars_normalize,
    toList_normalize (normalize text ++ more), String.toList_append]
  by_cases hshort : (trimChars (normalize text).toList).length < 2
  · -- too little is there to push a selector, with the mark or without it
    have hle := (unmarked_suffix (trimChars (normalize text).toList)).length_le
    rw [selectorsFrom_of_short (by omega)]
    exact List.nil_subset _
  · have hne : trimChars (normalize text).toList ≠ [] := fun hnil => hshort (by rw [hnil]; decide)
    rw [Text.trimChars_append hne normalize_last, lowerChars,
      Text.lowerFrom_append_of_isLow (isLow_of_mem_trimChars_normalize text),
      unmarked_append (Nat.le_of_not_lt hshort)]
    exact (selectorsFrom_append 0 _ _).subset

/-! ## templates that are met -/

section
variable {f : Fingerprint ℚ} {found found' : List String}

theorem isIn_iff : f.isIn found = true ↔ ∀ t ∈ f.required, t ∈ found := by
  unfold Fingerprint.isIn
  rw [List.all_eq_true]
  simp only [List.contains_iff_mem]

/-- the templates all of whose selectors are among those found -/
def met (found : List String) : List (Fingerprint ℚ) := fingerprints.filter (·.isIn found)

theorem mem_met_iff : f ∈ met found ↔ f ∈ fingerprints ∧ ∀ t ∈ f.required, t ∈ found := by
  rw [met, List.mem_filter, isIn_iff]

theorem met_sublist (h : found ⊆ found') : (met found).Sublist (met found') :=
  List.monotone_filter_right _ fun _ hf => isIn_iff.mpr fun t ht => h (isIn_iff.mp hf t ht)

theorem met_congr (h : ∀ t, t ∈ found ↔ t ∈ found') : met found = met found' :=
  List.filter_congr fun f _ => Bool.eq_iff_iff.mpr <| by
    rw [isIn_iff, isIn_iff]
    simp only [h]

end

/-! ## the confidence over fractions -/

section
variable {fs gs : List (Fingerprint ℚ)}

/-- the product of the misses -/
def miss (fs : List (Fingerprint ℚ)) : ℚ := (fs.map fun f => 1 - f.weight).prod

theorem miss_cons (f : Fingerprint ℚ) (fs : List (Fingerprint ℚ)) : miss (f :: fs) = (1 - f.weight) * miss fs :=
  List.prod_cons

theorem foldl_miss (fs : List (Fingerprint ℚ)) (m : ℚ) :
    fs.foldl (fun m f => m * ((1.0 : ℚ) - f.weight)) m = m * miss fs := by
  induction fs generalizing m with
  | nil => exact (mul_one m).symm
  | cons f fs ih =>
    have hone : (1.0 : ℚ) = 1 := by norm_num
    rw [List.foldl_cons, ih, miss_cons, hone]
    exact mul_assoc m (1 - f.weight) (miss fs)

/-- one minus the product of the misses, but no more than 0.99 -/
theorem confidence_eq (fs : List (Fingerprint ℚ)) : confidence fs = min 0.99 (1 - miss fs) := by
  have hone : (1.0 : ℚ) = 1 := by norm_num
  cases fs with
  | nil =>
    show ((0 : ℤ) : ℚ) = min 0.99 (1 - 1)
    norm_num
  | cons f fs =>
    show Scalar.lesser (0.99 : ℚ) ((1.0 : ℚ) - (f :: fs).foldl _ (1.0 : ℚ)) = _
    rw [lesser_eq_min]
    exact congrArg (fun m => min 0.99 (1.0 - m)) (foldl_miss (f :: fs) 1.0) |>.trans (by rw [hone, one_mul])

/-- every template has a weight, and none is certain -/
theorem weight_bounds : ∀ f ∈ (fingerprints : List (Fingerprint ℚ)), 0 < f.weight ∧ f.weight < 1 := by
  unfold fingerprints
  simp only [List.forall_mem_cons, List.not_mem_nil, false_implies, implies_true, and_true]
  refine ⟨?_, ?_, ?_, ?_, ?_⟩
  · exact ⟨show (0 : ℚ) < 0.80 by norm_num, show (0.80 : ℚ) < 1 by norm_num⟩
  · exact ⟨show (0 : ℚ) < 0.75 by norm_num, show (0.75 : ℚ) < 1 by norm_num⟩
  · exact ⟨show (0 : ℚ) < 0.60 by norm_num, show (0.60 : ℚ) < 1 by norm_num⟩
  · exact ⟨show (0 : ℚ) < 0.50 by norm_num, show (0.50 : ℚ) < 1 by norm_num⟩
  · exact ⟨show (0 : ℚ) < 0.50 by norm_num, show (0.50 : ℚ) < 1 by norm_num⟩

/-- templates with a weight -/
def Weighted (fs : List (Fingerprint ℚ)) : Prop := ∀ f ∈ fs, 0 < f.weight ∧ f.weight < 1

theorem miss_nonneg (h : Weighted fs) : 0 ≤ miss fs := by
  refine List.prod_nonneg fun x hx => ?_
  obtain ⟨f, hf, rfl⟩ := List.mem_map.mp hx
  exact sub_nonneg.mpr (h f hf).2.le

/-- another template can only make the product of the misses less -/
theorem miss_le_of_sublist (h : fs.Sublist gs) (hgs : Weighted gs) : miss gs ≤ miss fs := by
  induction h with
  | slnil => exact le_rfl
  | @cons fs gs g _ ih =>
    obtain ⟨hg, hgs⟩ := List.forall_mem_cons.mp hgs
    calc miss (g :: gs)
      _ = (1 - g.weight) * miss gs := miss_cons g gs
      _ ≤ miss gs := mul_le_of_le_one_left (miss_nonneg hgs) (by linarith)
      _ ≤ miss fs := ih hgs
  | @cons_cons fs gs g _ ih =>
    obtain ⟨hg, hgs⟩ := List.forall_mem_cons.mp hgs
    rw [miss_cons, miss_cons]
    exact mul_le_mul_of_nonneg_left (ih hgs) (by linarith)

theorem miss_lt_one (hne : fs ≠ []) (h : Weighted fs) : miss fs < 1 := by
  obtain ⟨f, fs, rfl⟩ := List.exists_cons_of_ne_nil hne
  obtain ⟨hf, _⟩ := List.forall_mem_cons.mp h
  have hle := miss_le_of_sublist (List.Sublist.cons_cons f (List.nil_sublist fs)) h
  rw [miss_cons] at hle
  calc miss (f :: fs)
    _ ≤ 1 - f.weight := by simpa [miss] using hle
    _ < 1 := by linarith

theorem confidence_le_of_sublist (h : fs.Sublist gs) (hgs : Weighted gs) : confidence fs ≤ confidence gs := by
  rw [confidence_eq, confidence_eq]
  exact min_le_min_left _ (sub_le_sub_left (miss_le_of_sublist h hgs) 1)

theorem confidence_eq_zero_iff (h : Weighted fs) : confidence fs = 0 ↔ fs = [] := by
  constructor
  · intro hzero
    by_contra hne
    have hpos : (0 : ℚ) < min 0.99 (1 - miss fs) :=
      lt_min (by norm_num) (sub_pos.mpr (miss_lt_one hne h))
    rw [← confidence_eq, hzero] at hpos
    exact lt_irrefl 0 hpos
  · rintro rfl
    rfl

theorem isUnit_confidence_of_weighted (h : Weighted fs) : isUnit (confidence fs) = true := by
  have hnonneg := miss_nonneg h
  have hle : miss fs ≤ 1 := miss_le_of_sublist (List.nil_sublist fs) h
  rw [isUnit_iff, confidence_eq]
  exact ⟨le_min (by norm_num) (by linarith), (min_le_right _ _).trans (by linarith)⟩

end

/-! ## the detector -/

/-- the code that a bundle is judged by -/
def codeOf (b : Bundle ℚ) : String := normalize (b.bytecode.getD "")

/-- the code is none of the builds that are known -/
def Unknown (known : List String) (b : Bundle ℚ) : Prop := digest (codeOf b) ∉ known.map Text.lower

/-- the second bundle has the code of the first one with more behind it, as the text of its bytecode or in
normal form -/
inductive Extends (b b' : Bundle ℚ) (code more : String) : Prop
  | text (h : b.bytecode = some code) (h' : b'.bytecode = some (code ++ more))
  | normal (h : codeOf b = code) (h' : codeOf b' = code ++ more)

theorem weighted_met (found : List String) : Weighted (met found) :=
  fun f hf => weight_bounds f (List.mem_of_mem_filter hf)

theorem signal_of_unknown {known : List String} {b : Bundle ℚ} (h : Unknown known b) :
    signal known b = similaritySignal (codeOf b) (digest (codeOf b)) :=
  if_neg (mt List.contains_iff_mem.mp h)

theorem confidence_of_unknown {known : List String} {b : Bundle ℚ} (h : Unknown known b) :
    (signal known b).confidence = confidence (met (selectors (codeOf b))) := by
  rw [signal_of_unknown h, similaritySignal, met]

theorem listed_of_unknown {known : List String} {b : Bundle ℚ} (h : Unknown known b) :
    listed (signal known b) = (met (selectors (codeOf b))).map fun f => .text f.name := by
  rw [signal_of_unknown h]
  rfl

/-- the detector always replies with a signal, over fractions too -/
theorem analyze_eq_fraction {σ : Type} (known : List String) (b : Bundle ℚ) (state : σ) :
    (detector known).analyze b state = (.signal (signal known b), state) := by
  refine congrArg (·, state) (if_pos ?_)
  refine signal_induction (P := fun s => isUnit s.confidence = true) (fun d => ?_) (fun code d => ?_) known b
  · exact isUnit_iff.mpr ⟨show (0 : ℚ) ≤ 0.99 by norm_num, show (0.99 : ℚ) ≤ 1 by norm_num⟩
  · exact isUnit_confidence_of_weighted (weighted_met (selectors code))

theorem Extends.selectors_subset {b b' : Bundle ℚ} {text more : String}
    (h : Extends b b' (normalize text) more) : selectors (codeOf b) ⊆ selectors (codeOf b') := by
  cases h with
  | text h h' =>
    rw [codeOf, codeOf, h, h']
    exact selectors_normalize_append text more
  | normal h h' =>
    rw [h, h']
    exact selectors_append (normalize text) more

/-- **Appended code hides nothing.** Every selector found in normal code is found when more text follows it,
so that every template that is met stays met; and the detector, if it knows neither build, names the same
templates and perhaps more, with no less confidence. In general its confidence is a matter of which selectors
are found, and it is zero exactly if there is no template all of whose selectors are. -/
theorem appended_weakens_nothing {σ : Type} (known : List String) (text more : String) (state : σ) :
    let code := normalize text
    (∀ t ∈ selectors code, t ∈ selectors (code ++ more)) ∧
    (∀ f ∈ (fingerprints : List (Fingerprint ℚ)), (∀ t ∈ f.required, t ∈ selectors code) →
      ∀ t ∈ f.required, t ∈ selectors (code ++ more)) ∧
    (∀ b : Bundle ℚ, (detector known).analyze b state = (.signal (signal known b), state)) ∧
    (∀ b b' : Bundle ℚ, Extends b b' code more → Unknown known b → Unknown known b' →
      listed (signal known b) ⊆ listed (signal known b') ∧
      (signal known b).confidence ≤ (signal known b').confidence) ∧
    (∀ b b' : Bundle ℚ, Unknown known b → Unknown known b' →
      (∀ t, t ∈ selectors (codeOf b) ↔ t ∈ selectors (codeOf b')) →
      (signal known b).confidence = (signal known b').confidence) ∧
    ∀ b : Bundle ℚ, Unknown known b → ((signal known b).confidence = 0 ↔
      ∀ f ∈ (fingerprints : List (Fingerprint ℚ)), ¬ ∀ t ∈ f.required, t ∈ selectors (codeOf b)) := by
  intro code
  have hfound := selectors_append code more
  refine ⟨hfound, fun f _ hf t ht => hfound (hf t ht), fun b => analyze_eq_fraction known b state,
    fun b b' hmore hb hb' => ?_, fun b b' hb hb' hsame => ?_, fun b hb => ?_⟩
  · have hmet := met_sublist hmore.selectors_subset
    rw [listed_of_unknown hb, listed_of_unknown hb', confidence_of_unknown hb, confidence_of_unknown hb']
    exact ⟨(hmet.map _).subset, confidence_le_of_sublist hmet (weighted_met _)⟩
  · rw [confidence_of_unknown hb, confidence_of_unknown hb', met_congr hsame]
  · rw [confidence_of_unknown hb, confidence_eq_zero_iff (weighted_met _), List.eq_nil_iff_forall_not_mem]
    simp only [mem_met_iff, not_and]

/-- the second selector of a template ends in the code that is appended -/
theorem appended_weakens_nothing_seam :
    let bundle (code : String) : Bundle ℚ := ⟨"0xabc", "eth", some code, none, none, none, none, none, none⟩
    let b := bundle (normalize "0x6340c10f1963f2fde3")
    let b' := bundle (normalize "0x6340c10f1963f2fde3" ++ "8b")
    (signal [] b).confidence = 0 ∧ (signal [] b').confidence ≠ 0 ∧
      (signal [] b).confidence ≤ (signal [] b').confidence := by
  intro bundle b b'
  have hb : Unknown [] b := List.not_mem_nil
  have hb' : Unknown [] b' := List.not_mem_nil
  obtain ⟨_, _, _, hmore, _, hzero⟩ := appended_weakens_nothing [] "0x6340c10f1963f2fde3" "8b" ()
  refine ⟨(hzero b hb).mpr (by decide +kernel), fun h => ?_, (hmore b b' (.text rfl rfl) hb hb').2⟩
  have hmet : ¬ ∀ f ∈ (fingerprints : List (Fingerprint ℚ)), ¬ ∀ t ∈ f.required, t ∈ selectors (codeOf b') := by
    decide +kernel
  exact hmet ((hzero b' hb').mp h)

end ContractRisk.Bytecode
