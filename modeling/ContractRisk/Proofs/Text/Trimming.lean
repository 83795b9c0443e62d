import ContractRisk.Text.Blank
import Mathlib.Data.List.DropRight
import Mathlib.Data.List.TakeWhile

/-!
# Trimmed texts

A text `IsTrimmed` if no blank stands at either end. Trimming gives such a text (`isTrimmed_trimChars`) and
leaves it as it is (`IsTrimmed.trimChars_eq`), so that trimming twice is trimming once. More text behind one
that does not end in a blank is trimmed at its end alone (`trimChars_append`).
-/

namespace ContractRisk.Text

/-! ## runs at the ends -/

/-- what is behind a run does not start with a character of it -/
theorem not_of_mem_head?_dropWhile {p : Char → Bool} {cs : List Char} {c : Char}
    (h : c ∈ (cs.dropWhile p).head?) : p c = false := by
  have hfirst := cs.head?_dropWhile_not p
  rwa [Option.mem_def.mp h] at hfirst

theorem dropWhile_eq_self {p : Char → Bool} {cs : List Char} (h : ∀ c ∈ cs.head?, p c = false) :
    cs.dropWhile p = cs := by
  refine List.dropWhile_eq_self_iff.mpr fun hl => ?_
  rw [h _ (by rw [List.head?_eq_getElem?, List.getElem?_eq_getElem hl]; rfl)]
  exact Bool.false_ne_true

theorem dropEnd_eq_self {p : Char → Bool} {cs : List Char} (h : ∀ c ∈ cs.getLast?, p c = false) :
    dropEnd p cs = cs := by
  refine List.rdropWhile_eq_self_iff.mpr fun hl => ?_
  rw [h _ (List.getLast?_eq_some_getLast hl)]
  exact Bool.false_ne_true

/-- behind a character outside the run, more text is cut off at its end alone -/
theorem dropEnd_append {p : Char → Bool} {cs : List Char} (h : ∀ c ∈ cs.getLast?, p c = false)
    (ds : List Char) : dropEnd p (cs ++ ds) = cs ++ dropEnd p ds := by
  have hself : cs.reverse.dropWhile p = cs.reverse := by
    rw [← List.reverse_eq_iff]
    exact dropEnd_eq_self h
  unfold dropEnd
  rw [List.reverse_append, List.dropWhile_append, hself]
  split
  · next hempty =>
    rw [List.isEmpty_iff.mp hempty, List.reverse_nil, List.append_nil, List.reverse_reverse]
  · rw [List.reverse_append, List.reverse_reverse]

/-! ## blanks at the ends -/

/-- no blank at either end -/
def IsTrimmed (cs : List Char) : Prop :=
  (∀ c ∈ cs.head?, isBlank c = false) ∧ ∀ c ∈ cs.getLast?, isBlank c = false

theorem isTrimmed_trimChars (cs : List Char) : IsTrimmed (trimChars cs) := by
  constructor
  · intro c hc
    obtain ⟨r, hr⟩ : trimChars cs <+: cs.dropWhile isBlank := List.rdropWhile_prefix isBlank _
    have hhead : c ∈ (cs.dropWhile isBlank).head? := by
      rw [← hr, List.head?_append_of_ne_nil _ (List.ne_nil_of_mem (List.mem_of_mem_head? hc))]
      exact hc
    exact not_of_mem_head?_dropWhile hhead
  · intro c hc
    unfold trimChars dropEnd at hc
    rw [List.getLast?_reverse] at hc
    exact not_of_mem_head?_dropWhile hc

theorem IsTrimmed.trimChars_eq {cs : List Char} (h : IsTrimmed cs) : trimChars cs = cs := by
  rw [trimChars, dropWhile_eq_self h.1, dropEnd_eq_self h.2]

theorem trim_trim (s : String) : trim (trim s) = trim s := by
  unfold trim
  rw [String.toList_ofList, (isTrimmed_trimChars s.toList).trimChars_eq]

theorem trimChars_append {cs : List Char} (hne : trimChars cs ≠ [])
    (hlast : ∀ c ∈ cs.getLast?, isBlank c = false) (ds : List Char) :
    trimChars (cs ++ ds) = trimChars cs ++ dropEnd isBlank ds := by
  have hsome : cs.dropWhile isBlank ≠ [] := by
    intro hnil
    exact hne (by rw [trimChars, hnil]; rfl)
  have hlast' : ∀ c ∈ (cs.dropWhile isBlank).getLast?, isBlank c = false := by
    intro c hc
    obtain ⟨blanks, hblanks⟩ := List.dropWhile_suffix isBlank (l := cs)
    refine hlast c ?_
    rw [← hblanks, List.getLast?_append_of_ne_nil _ hsome]
    exact hc
  have hself : trimChars cs = cs.dropWhile isBlank := dropEnd_eq_self hlast'
  have hdrop : (cs ++ ds).dropWhile isBlank = cs.dropWhile isBlank ++ ds := by
    rw [List.dropWhile_append, if_neg (by rwa [List.isEmpty_iff])]
  rw [hself, trimChars, hdrop, dropEnd_append hlast']

end ContractRisk.Text
