import ContractRisk.Proofs.Detector.Selectors
import ContractRisk.Proofs.Text.LowerCase

/-!
# Known builds

Code is compared with the builds that are known after it has been normalised once more, while the digest of
a build is that of the code normalised once. The two are the same for code that is normal and stays so
(`IsPlain`): no blank and no further mark of hexadecimal numbers comes to the front when the mark is taken off.

* `normalize_normalize_iff`   normal code is plain exactly if normalising it again does not change it
* `detector_recognises`       plain code whose digest is known, in any letter case, is recognised; other code is
  compared by the digest of what is left after another mark is taken off
-/

namespace ContractRisk.Bytecode

open Text (isLow isBlank lowerChars trimChars IsTrimmed SameLetters)

/-! ## normalising -/

/-- without the mark of hexadecimal numbers -/
def unmarked : List Char → List Char
  | '0' :: 'x' :: r => r
  | r => r

theorem unmarked_suffix (cs : List Char) : unmarked cs <:+ cs := by
  unfold unmarked
  split
  · exact ⟨['0', 'x'], rfl⟩
  · exact List.suffix_refl _

theorem unmarked_eq_self {cs : List Char} (h : ¬ ['0', 'x'] <+: cs) : unmarked cs = cs := by
  unfold unmarked
  split
  · next r => exact absurd ⟨r, rfl⟩ h
  · rfl

theorem toList_normalize (code : String) :
    (normalize code).toList = unmarked (lowerChars (trimChars code.toList)) := by
  unfold normalize
  generalize lowerChars (trimChars code.toList) = cs
  split
  · exact String.toList_ofList
  · next hother =>
    rw [String.toList_ofList, unmarked_eq_self]
    rintro ⟨r, rfl⟩
    exact hother r rfl

/-- neither a blank nor the mark of hexadecimal numbers is in front -/
def IsPlain (code : String) : Prop :=
  (∀ c ∈ code.toList.head?, isBlank c = false) ∧ ¬ ['0', 'x'] <+: code.toList

theorem isLow_of_mem_normalize (code : String) : ∀ c ∈ (normalize code).toList, isLow c = true := by
  intro c hc
  rw [toList_normalize] at hc
  exact Text.isLow_of_mem_lowerChars c ((unmarked_suffix _).mem hc)

theorem normalize_last {code : String} : ∀ c ∈ (normalize code).toList.getLast?, isBlank c = false := by
  intro c hc
  rw [toList_normalize] at hc
  have htrimmed := (Text.isTrimmed_trimChars code.toList).lowerChars
  refine htrimmed.2 c ?_
  obtain ⟨mark, hmark⟩ := unmarked_suffix (lowerChars (trimChars code.toList))
  rw [← hmark]
  exact List.mem_getLast?_append_of_mem_getLast? hc

theorem length_trimChars_lt {cs : List Char} {c : Char} (hc : c ∈ cs.head?) (hblank : isBlank c = true) :
    (trimChars cs).length < cs.length := by
  obtain ⟨r, rfl⟩ := List.head?_eq_some_iff.mp hc
  have hle : (trimChars (c :: r)).length ≤ ((c :: r).dropWhile isBlank).length :=
    (List.rdropWhile_prefix isBlank _).length_le
  rw [List.dropWhile_cons_of_pos hblank] at hle
  exact Nat.lt_succ_of_le (hle.trans (List.dropWhile_suffix _).length_le)

theorem isLow_of_mem_trimChars_normalize (code : String) :
    ∀ c ∈ trimChars (normalize code).toList, isLow c = true := fun c hc =>
  isLow_of_mem_normalize code c
    ((List.dropWhile_suffix _).mem ((List.rdropWhile_prefix isBlank _).mem hc))

theorem lowerChars_trimChars_normalize (code : String) :
    lowerChars (trimChars (normalize code).toList) = trimChars (normalize code).toList :=
  Text.lowerChars_of_isLow (isLow_of_mem_trimChars_normalize code)

/-- **Normalising again** changes normal code exactly if it is not plain. -/
theorem normalize_normalize_iff (code : String) :
    normalize (normalize code) = normalize code ↔ IsPlain (normalize code) := by
  have htrim (hhead : ∀ c ∈ (normalize code).toList.head?, isBlank c = false) :
      trimChars (normalize code).toList = (normalize code).toList :=
    IsTrimmed.trimChars_eq ⟨hhead, normalize_last⟩
  rw [← String.toList_inj, toList_normalize (normalize code), lowerChars_trimChars_normalize]
  unfold IsPlain
  generalize (normalize code).toList = cs at htrim
  constructor
  · intro hsame
    have hhead : ∀ c ∈ cs.head?, isBlank c = false := by
      intro c hc
      by_contra hblank
      rw [Bool.not_eq_false] at hblank
      -- without the blank the text is shorter, and it cannot become longer again
      have hlt := length_trimChars_lt hc hblank
      have hle := (unmarked_suffix (trimChars cs)).length_le
      rw [hsame] at hle
      omega
    refine ⟨hhead, ?_⟩
    rintro ⟨r, rfl⟩
    rw [htrim hhead] at hsame
    have hlength : r.length = r.length + 2 := congrArg List.length hsame
    omega
  · rintro ⟨hhead, hmark⟩
    rw [htrim hhead, unmarked_eq_self hmark]

/-! ## digests -/

theorem hexPadded_low : ∀ n < 256, (Text.hexPadded 2 n).all isLow = true := by decide +kernel

theorem lower_digest (code : String) : Text.lower (digest code) = digest code := by
  refine Text.lower_of_isLow fun c hc => ?_
  unfold digest Sha256.hexDigest at hc
  rw [String.toList_ofList] at hc
  obtain ⟨b, _, hb⟩ := List.mem_flatMap.mp hc
  exact List.all_eq_true.mp (hexPadded_low b.toNat b.toNat_lt) c hb

/-- what a signal says the digest of the code is -/
def digestTold {α : Type} (s : Signal α) : Option Value := s.metadata.lookup "bytecode_sha256"

theorem digestTold_signal (known : List String) (b : Bundle Float) :
    digestTold (signal known b) = some (.text (digest (normalize (b.bytecode.getD "")))) := by
  unfold signal
  dsimp only
  split <;> rfl

/-- the signal of a build that is known is the only one with a severity of its own -/
theorem severity_signal_iff (known : List String) (b : Bundle Float) :
    (signal known b).severity = some .high ↔
      ∃ h ∈ known, Text.lower h = digest (normalize (b.bytecode.getD "")) := by
  unfold signal
  dsimp only
  rw [← List.mem_map, ← List.contains_iff_mem]
  split
  · next h => exact iff_of_true rfl h
  · next h => exact iff_of_false nofun h

/-- **Known builds.** The code of a bundle is told from the builds that are known by the digest of its normal
form, normalised once more: it is recognised exactly if that is among the known digests, in any letter case.
As long as the normal form is plain this is the digest of every code with the same normal form, and the
signal says that the build is known. -/
theorem detector_recognises {σ : Type} (known : List String) (c : String) (b : Bundle Float) (state : σ)
    (hcode : normalize (b.bytecode.getD "") = normalize c) :
    ∃ s : Signal Float, (detector known).analyze b state = (.signal s, state) ∧
      (s.severity = some .high ↔ ∃ h ∈ known, Text.lower h = digest (normalize c)) ∧
      digestTold s = some (.text (digest (normalize c))) ∧
      (normalize (normalize c) = normalize c ↔ IsPlain (normalize c)) ∧
      (IsPlain (normalize c) → (∃ h ∈ known, SameLetters h (digest c)) →
        s = exactSignal (digest c) ∧ s.confidence = 0.99 ∧ s.severity = some .high ∧
          digestTold s = some (.text (digest c))) := by
  have htold := digestTold_signal known b
  have hseverity := severity_signal_iff known b
  rw [hcode] at htold hseverity
  refine ⟨signal known b, analyze_eq known b state, hseverity, htold, normalize_normalize_iff c, ?_⟩
  rintro hplain ⟨h, hmem, hsame⟩
  have hdigest : digest (normalize c) = digest c := by
    unfold digest
    rw [(normalize_normalize_iff c).mpr hplain]
  have hlower : Text.lower h = digest c := (Text.lower_eq_of_sameLetters hsame).trans (lower_digest c)
  have hknown : (known.map Text.lower).contains (digest (normalize (b.bytecode.getD ""))) = true := by
    rw [hcode, hdigest, List.contains_iff_mem, ← hlower]
    exact List.mem_map_of_mem hmem
  have hexact : signal known b = exactSignal (digest c) := by
    rw [← hdigest, ← hcode]
    exact if_pos hknown
  rw [hexact]
  exact ⟨rfl, rfl, rfl, rfl⟩

/-- the digest is known in upper case, and the code comes with a mark and with blanks around it -/
theorem detector_recognises_shouted :
    let known := ["88D4266FD4E6338D13B845FCF289579D209C897823B9217DA3E161936F031589"]
    normalize ((coded "  0xABcd ").bytecode.getD "") = normalize "abcd" ∧
      ∃ s : Signal Float, (detector known).analyze (coded "  0xABcd ") () = (.signal s, ()) ∧
        s.confidence = 0.99 ∧ s.severity = some .high ∧ digestTold s = some (.text (digest "abcd")) := by
  intro known
  have hcode : normalize ((coded "  0xABcd ").bytecode.getD "") = normalize "abcd" := by decide +kernel
  have hknown : ∃ h ∈ known, SameLetters h (digest "abcd") := ⟨_, .head _, by decide +kernel⟩
  obtain ⟨s, hs, _, _, _, hplain⟩ := detector_recognises known "abcd" (coded "  0xABcd ") () hcode
  have hform : (normalize "abcd").toList = ['a', 'b', 'c', 'd'] := by decide +kernel
  have habcd : IsPlain (normalize "abcd") := by
    unfold IsPlain
    rw [hform]
    exact ⟨by rintro c ⟨⟩; decide, by decide⟩
  exact ⟨hcode, s, hs, (hplain habcd hknown).2⟩

/-- The code bears the mark twice: its own digest is known, and it is not recognised. -/
theorem detector_misses_marked :
    let code := "0x0x6080604052"
    ∃ s : Signal Float, (detector [digest code]).analyze (coded code) () = (.signal s, ()) ∧
      s ≠ exactSignal (digest code) ∧ s.severity ≠ some .high ∧
      digestTold s ≠ some (.text (digest code)) := by
  intro code
  have hdigest : digest code ≠ digest (normalize code) := by decide +kernel
  have hseverity : (signal [digest code] (coded code)).severity ≠ some .high := by
    rw [ne_eq, severity_signal_iff]
    rintro ⟨h, hmem, hlower⟩
    rw [List.mem_singleton.mp hmem, lower_digest] at hlower
    exact hdigest hlower
  refine ⟨signal [digest code] (coded code), analyze_eq _ _ (), ?_, hseverity, ?_⟩
  · intro hexact
    rw [hexact] at hseverity
    exact hseverity rfl
  · rw [digestTold_signal]
    exact fun htold => hdigest (Value.text.inj (Option.some.inj htold)).symm

end ContractRisk.Bytecode
