import ContractRisk.Text.LetterCase

/-!
# The case of ASCII letters

Two texts have the `SameLetters` if they differ in the case of ASCII letters alone. Such texts are the same
in lower case (`lower_eq_of_sameLetters`): the mapping of a character reads its surroundings only to decide
between two forms of sigma, and there the case of a letter has no bearing.
-/

namespace ContractRisk.Text

/-! ## characters -/

/-- what holds of the first 128 characters holds of all ASCII characters -/
theorem forall_ascii {P : Char → Prop} (h : ∀ n < 128, P (Char.ofNat n)) {c : Char} (hc : c.toNat < 128) :
    P c := by
  have hofNat := h c.toNat hc
  rwa [Char.ofNat_toNat] at hofNat

theorem toLower_of_not_ascii {c : Char} (h : ¬ c.toNat < 128) : c.toLower = c := by
  unfold Char.toLower
  refine dif_neg fun hletter => h ?_
  have hle : c.toNat ≤ 90 := hletter.2
  omega

theorem toLower_ascii_iff (c : Char) : c.toLower.toNat < 128 ↔ c.toNat < 128 := by
  by_cases h : c.toNat < 128
  · have hlower : c.toLower.toNat < 128 :=
      forall_ascii (P := fun c => c.toLower.toNat < 128) (by decide +kernel) h
    exact iff_of_true hlower h
  · rw [toLower_of_not_ascii h]

theorem toLower_toLower (c : Char) : c.toLower.toLower = c.toLower := by
  by_cases h : c.toNat < 128
  · exact forall_ascii (P := fun c => c.toLower.toLower = c.toLower) (by decide +kernel) h
  · rw [toLower_of_not_ascii h, toLower_of_not_ascii h]

theorem isCased_toLower (c : Char) : isCased c.toLower = isCased c := by
  by_cases h : c.toNat < 128
  · exact forall_ascii (P := fun c => isCased c.toLower = isCased c) (by decide +kernel) h
  · rw [toLower_of_not_ascii h]

theorem isSkipped_toLower (c : Char) : isSkipped c.toLower = isSkipped c := by
  by_cases h : c.toNat < 128
  · exact forall_ascii (P := fun c => isSkipped c.toLower = isSkipped c) (by decide +kernel) h
  · rw [toLower_of_not_ascii h]

/-! ## texts -/

/-- characters that each have one image are put in lower case one by one, whatever stands around them -/
theorem lowerFrom_append {f : Char → Char} {cs : List Char}
    (h : ∀ c ∈ cs, ∀ before after, lowerAt before c after = [f c]) (before ds : List Char) :
    lowerFrom before (cs ++ ds) = cs.map f ++ lowerFrom (cs.reverse ++ before) ds := by
  induction cs generalizing before with
  | nil => rfl
  | cons c cs ih =>
    obtain ⟨hc, hcs⟩ := List.forall_mem_cons.mp h
    rw [List.cons_append, lowerFrom_cons, hc, ih hcs, List.reverse_cons, List.append_assoc]
    rfl

theorem meetsCased_map_toLower (cs : List Char) : meetsCased (cs.map Char.toLower) = meetsCased cs := by
  have hskipped : isSkipped ∘ Char.toLower = isSkipped := funext isSkipped_toLower
  unfold meetsCased
  rw [List.dropWhile_map, hskipped]
  cases cs.dropWhile isSkipped with
  | nil => rfl
  | cons c r => exact isCased_toLower c

theorem lowerAt_map_toLower (before : List Char) (c : Char) (after : List Char) :
    lowerAt (before.map Char.toLower) c.toLower (after.map Char.toLower) = lowerAt before c after := by
  by_cases h : c.toNat < 128
  · rw [lowerAt_ascii h, lowerAt_ascii ((toLower_ascii_iff c).mpr h), toLower_toLower]
  · rw [toLower_of_not_ascii h]
    unfold lowerAt
    rw [meetsCased_map_toLower, meetsCased_map_toLower]

theorem lowerFrom_map_toLower (before cs : List Char) :
    lowerFrom (before.map Char.toLower) (cs.map Char.toLower) = lowerFrom before cs := by
  induction cs generalizing before with
  | nil => rfl
  | cons c r ih =>
    rw [List.map_cons, lowerFrom_cons, lowerFrom_cons, lowerAt_map_toLower, ← List.map_cons, ih]

/-- the texts differ in the case of ASCII letters alone -/
def SameLetters (s t : String) : Prop := s.toList.map Char.toLower = t.toList.map Char.toLower

instance (s t : String) : Decidable (SameLetters s t) :=
  inferInstanceAs (Decidable (s.toList.map Char.toLower = t.toList.map Char.toLower))

theorem lower_eq_of_sameLetters {s t : String} (h : SameLetters s t) : lower s = lower t := by
  have hchars : lowerChars s.toList = lowerChars t.toList := by
    unfold lowerChars
    rw [← lowerFrom_map_toLower [] s.toList, h, lowerFrom_map_toLower]
  unfold lower
  rw [hchars]

theorem SameLetters.isEmpty_eq {s t : String} (h : SameLetters s t) : s.isEmpty = t.isEmpty := by
  have hnil : s.toList = [] ↔ t.toList = [] := by
    rw [← List.map_eq_nil_iff (f := Char.toLower), h, List.map_eq_nil_iff]
  rw [Bool.eq_iff_iff, String.isEmpty_iff, String.isEmpty_iff, ← String.toList_eq_nil_iff, hnil,
    String.toList_eq_nil_iff]

end ContractRisk.Text
