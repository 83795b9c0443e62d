import ContractRisk.Proofs.Text.AsciiCase
import ContractRisk.Text.Search
import Mathlib.Data.List.Infix

/-!
# Occurrences up to case

A text is looked up in another one when both are in lower case. Lower case is taken character by character,
and some characters depend on what surrounds them or become two. Still, an ASCII part of a text is a part of
it in lower case as well, whatever surrounds it.

* `infix_lowerChars`   a part of ASCII characters, in lower case, is found;
* `Within`             one text occurs in another one up to the case of ASCII letters.
-/

namespace ContractRisk.Text

/-! ## lower case in pieces -/

/-- what comes before does not change how the rest is put in lower case, beyond being before it -/
theorem lowerFrom_suffix (before cs ds : List Char) :
    lowerFrom (cs.reverse ++ before) ds <:+ lowerFrom before (cs ++ ds) := by
  induction cs generalizing before with
  | nil => exact List.suffix_rfl
  | cons c cs ih =>
    rw [List.reverse_cons, List.append_assoc]
    exact (ih (c :: before)).trans (List.suffix_append _ _)

theorem infix_lowerChars {cs text : List Char} (h : ∀ c ∈ cs, c.toNat < 128) (hcs : cs <:+: text) :
    cs.map Char.toLower <:+: lowerChars text := by
  obtain ⟨pre, post, rfl⟩ := hcs
  have hsuffix := lowerFrom_suffix [] pre (cs ++ post)
  rw [lowerFrom_append fun c hc => lowerAt_ascii (h c hc)] at hsuffix
  rw [List.append_assoc]
  exact (List.prefix_append _ _).isInfix.trans hsuffix.isInfix

/-! ## occurrences -/

/-- `t` occurs in `s` up to the case of ASCII letters -/
def Within (t s : String) : Prop := t.toList.map Char.toLower <:+: s.toList.map Char.toLower

instance (t s : String) : Decidable (Within t s) :=
  inferInstanceAs (Decidable (t.toList.map Char.toLower <:+: s.toList.map Char.toLower))

/-- what occurs stands there in some case -/
theorem Within.exists_infix {t s : String} (h : Within t s) :
    ∃ cs, cs <:+: s.toList ∧ cs.map Char.toLower = t.toList.map Char.toLower := by
  obtain ⟨pre, post, hs⟩ := h
  obtain ⟨front, _, hsplit, hfront, rfl⟩ := List.map_eq_append_iff.mp hs.symm
  obtain ⟨_, cs, rfl, rfl, hcs⟩ := List.map_eq_append_iff.mp hfront
  exact ⟨cs, ⟨_, _, hsplit.symm⟩, hcs⟩

end ContractRisk.Text
