import ContractRisk.Heuristic
import ContractRisk.Proofs.Text.Trimming
import Mathlib.Data.List.Basic
import Mathlib.Data.List.TakeWhile
import Mathlib.Order.Basic

/-!
# Compiler pragmas

A pragma allows some versions of the compiler (`Constraint.Allows`), and arithmetic is checked from version
0.8 on. Where the first pragma of a source text is one of a single constraint, the check for overflows judges
it by the version that it names, whatever the sign in front of it.

* `pragmaHere?_eq_some_iff`   where a version is read, and which one
* `pragma?_append`            of several pragmas the first one is read
* `integerOverflow_pragma`    nothing is found exactly if the version named is one with checked arithmetic;
  then so are all that are allowed, unless the version named is an upper bound

`integerOverflow_clears` has a pragma of which all compilers allowed are unchecked, and nothing is found.
-/

namespace ContractRisk.Heuristic

open Text (isBlank isDigit digitLimit)

/-! ## versions and constraints -/

structure Version where
  major : Nat
  minor : Nat
  patch : Nat

/-- arithmetic is checked from version 0.8 on -/
def Version.IsChecked (v : Version) : Prop := 0 < v.major ∨ 8 ≤ v.minor

instance (v : Version) : Decidable v.IsChecked := inferInstanceAs (Decidable (0 < v.major ∨ 8 ≤ v.minor))

/-- what may stand in front of a version -/
inductive Sign where
  | bare
  | equal
  | caret
  | tilde
  | atLeast
  | above
  | below
  | atMost
deriving DecidableEq

def Sign.text : Sign → List Char
  | bare => []
  | equal => ['=']
  | caret => ['^']
  | tilde => ['~']
  | atLeast => ['>', '=']
  | above => ['>']
  | below => ['<']
  | atMost => ['<', '=']

def Sign.IsUpper (s : Sign) : Prop := s = below ∨ s = atMost

/-- a sign and a version, whose last number may be left out -/
structure Constraint where
  sign : Sign
  major : Nat
  minor : Nat
  patch : Option Nat

namespace Constraint

/-- the version has the numbers that are named -/
def Names (c : Constraint) (v : Version) : Prop :=
  c.major = v.major ∧ c.minor = v.minor ∧ ∀ p ∈ c.patch, p = v.patch

/-- the numbers named come before those of the version -/
def Precedes (c : Constraint) (v : Version) : Prop :=
  c.major < v.major ∨ c.major = v.major ∧
    (c.minor < v.minor ∨ c.minor = v.minor ∧ ∃ p ∈ c.patch, p < v.patch)

/-- the numbers named come after those of the version -/
def Follows (c : Constraint) (v : Version) : Prop :=
  v.major < c.major ∨ c.major = v.major ∧
    (v.minor < c.minor ∨ c.minor = v.minor ∧ ∃ p ∈ c.patch, v.patch < p)

/-- Does the constraint allow the version? A tilde keeps the minor version, a caret the major one, but the
minor one as well where the major one is zero. -/
def Allows (c : Constraint) (v : Version) : Prop :=
  match c.sign with
  | .bare | .equal => c.Names v
  | .caret => (c.Names v ∨ c.Precedes v) ∧ c.major = v.major ∧ (c.major = 0 → c.minor = v.minor)
  | .tilde => (c.Names v ∨ c.Precedes v) ∧ c.major = v.major ∧ c.minor = v.minor
  | .atLeast => c.Names v ∨ c.Precedes v
  | .above => c.Precedes v
  | .below => c.Follows v
  | .atMost => c.Names v ∨ c.Follows v

/-- the version named is one with checked arithmetic -/
def IsChecked (c : Constraint) : Prop := 0 < c.major ∨ 8 ≤ c.minor

instance (c : Constraint) : Decidable c.IsChecked := inferInstanceAs (Decidable (0 < c.major ∨ 8 ≤ c.minor))

variable {c : Constraint}

theorem IsChecked.of_names (h : c.IsChecked) {v : Version} (hv : c.Names v) : v.IsChecked := by
  obtain ⟨hmajor, hminor, _⟩ := hv
  unfold IsChecked at h
  unfold Version.IsChecked
  omega

theorem IsChecked.of_precedes (h : c.IsChecked) {v : Version} (hv : c.Precedes v) : v.IsChecked := by
  unfold IsChecked at h
  unfold Version.IsChecked
  rcases hv with hmajor | ⟨hmajor, hminor | ⟨hminor, _⟩⟩ <;> omega

/-- with a checked version named, the constraint allows checked ones alone unless it is an upper bound -/
theorem IsChecked.allows_iff (h : c.IsChecked) :
    (∀ v, c.Allows v → v.IsChecked) ↔ ¬ c.sign.IsUpper := by
  have hnamed {v : Version} : c.Names v ∨ c.Precedes v → v.IsChecked :=
    fun hv => hv.elim h.of_names h.of_precedes
  -- the first version of all lies below every version that is checked
  have hfirst : c.Follows ⟨0, 0, 0⟩ := by
    unfold IsChecked at h
    unfold Follows
    dsimp only
    omega
  have hunchecked : ¬ (⟨0, 0, 0⟩ : Version).IsChecked := by decide
  unfold Allows Sign.IsUpper
  cases c.sign with
  | bare => exact iff_of_true (fun v hv => h.of_names hv) nofun
  | equal => exact iff_of_true (fun v hv => h.of_names hv) nofun
  | caret => exact iff_of_true (fun v hv => hnamed hv.1) nofun
  | tilde => exact iff_of_true (fun v hv => hnamed hv.1) nofun
  | atLeast => exact iff_of_true (fun v hv => hnamed hv) nofun
  | above => exact iff_of_true (fun v hv => h.of_precedes hv) nofun
  | below => exact iff_of_false (fun hall => hunchecked (hall _ hfirst)) fun hnot => hnot (.inl rfl)
  | atMost => exact iff_of_false (fun hall => hunchecked (hall _ (.inr hfirst))) fun hnot => hnot (.inr rfl)

end Constraint

/-! ## reading a pragma -/

/-- a row of digits, at least one -/
def IsNumeral (cs : List Char) : Prop := cs ≠ [] ∧ ∀ c ∈ cs, isDigit c = true

/-- a constraint as it is written -/
structure Writing where
  sign : Sign
  major : List Char
  minor : List Char
  patch : Option (List Char)

namespace Writing

def constraint (w : Writing) : Constraint :=
  ⟨w.sign, digitsValue w.major, digitsValue w.minor, w.patch.map digitsValue⟩

/-- the last number with the point before it -/
def patchText (w : Writing) : List Char := w.patch.elim [] ('.' :: ·)

/-- Does a pragma with the constraint start the text? Blanks must stand between the two words, and may stand
around the sign; no digit follows the version. -/
def Opens (w : Writing) (cs : List Char) : Prop :=
  IsNumeral w.major ∧ IsNumeral w.minor ∧ (∀ p ∈ w.patch, IsNumeral p) ∧
    ∃ gap before between rest, gap ≠ [] ∧ (∀ c ∈ gap, isBlank c = true) ∧
      (∀ c ∈ before, isBlank c = true) ∧ (∀ c ∈ between, isBlank c = true) ∧
      (∀ c ∈ rest.head?, isDigit c = false) ∧
      cs = "pragma".toList ++ (gap ++ ("solidity".toList ++ ((before ++ w.sign.text ++ between) ++
        (w.major ++ '.' :: (w.minor ++ (w.patchText ++ rest))))))

end Writing

/-- Does a pragma start the text, and is this the version that is read off it? Any row of signs and blanks
may stand before the version, and no digit follows it. -/
def IsPragma (major minor cs : List Char) : Prop :=
  IsNumeral major ∧ IsNumeral minor ∧ ∃ gap signs rest, gap ≠ [] ∧ (∀ c ∈ gap, isBlank c = true) ∧
    (∀ c ∈ signs, isConstraintChar c = true) ∧ (∀ c ∈ rest.head?, isDigit c = false) ∧
    cs = "pragma".toList ++ (gap ++ ("solidity".toList ++ (signs ++ (major ++ '.' :: (minor ++ rest)))))

theorem after?_append (word r : List Char) : after? word (word ++ r) = some r := by
  unfold after?
  rw [if_pos (List.isPrefixOf_iff_prefix.mpr (List.prefix_append word r)), List.drop_left]

theorem eq_append_of_after? {word cs r : List Char} (h : after? word cs = some r) : cs = word ++ r := by
  unfold after? at h
  obtain ⟨hstart, hr⟩ := Option.ite_none_right_eq_some.mp h
  obtain ⟨t, rfl⟩ := List.isPrefixOf_iff_prefix.mp hstart
  rw [List.drop_left, Option.some.injEq] at hr
  rw [hr]

/-- a run of characters of one class ends where one of another class stands -/
theorem run_append {p : Char → Bool} {xs : List Char} (ys : List Char) (hxs : ∀ c ∈ xs, p c = true)
    (hys : ∀ c ∈ ys.head?, p c = false) :
    (xs ++ ys).takeWhile p = xs ∧ (xs ++ ys).dropWhile p = ys := by
  have hnone : ys.takeWhile p = [] := by
    cases ys with
    | nil => rfl
    | cons y ys => rw [List.takeWhile_cons_of_neg (by rw [hys y rfl]; exact Bool.false_ne_true)]
  rw [List.takeWhile_append_of_pos hxs, List.dropWhile_append_of_pos hxs, hnone, List.append_nil,
    Text.dropWhile_eq_self hys]
  exact ⟨rfl, rfl⟩

/-- a digit stands in one of the rows of ten digits -/
theorem exists_row_of_isDigit {c : Char} (h : isDigit c = true) :
    ∃ z ∈ Text.digitZeros.toList, z ≤ c.toNat ∧ c.toNat < z + 10 := by
  unfold isDigit Text.digit? at h
  by_cases hascii : c.toNat < 128
  · rw [if_pos hascii] at h
    have hdigit : Text.isAsciiDigit c = true := by
      by_contra hnot
      rw [if_neg hnot] at h
      exact nomatch h
    unfold Text.isAsciiDigit at hdigit
    rw [Bool.and_eq_true, decide_eq_true_eq, decide_eq_true_eq] at hdigit
    have hlow : 48 ≤ c.toNat := hdigit.1
    have hhigh : c.toNat ≤ 57 := hdigit.2
    exact ⟨48, by decide, hlow, by omega⟩
  · rw [if_neg hascii, Option.isSome_map] at h
    obtain ⟨z, hz⟩ := Option.isSome_iff_exists.mp h
    have hfound := Array.find?_some hz
    rw [Bool.and_eq_true, decide_eq_true_eq, decide_eq_true_eq] at hfound
    exact ⟨z, Array.mem_toList_iff.mpr (Array.mem_of_find?_eq_some hz), hfound⟩

theorem isConstraintChar_rows : ∀ z ∈ Text.digitZeros.toList, ∀ k < 10,
    isConstraintChar (Char.ofNat (z + k)) = false := by
  decide +kernel

theorem isConstraintChar_of_isDigit {c : Char} (h : isDigit c = true) : isConstraintChar c = false := by
  obtain ⟨z, hz, hle, hlt⟩ := exists_row_of_isDigit h
  have hchar := isConstraintChar_rows z hz (c.toNat - z) (by omega)
  rwa [Nat.add_sub_cancel' hle, Char.ofNat_toNat] at hchar

theorem isConstraintChar_of_isBlank {c : Char} (h : isBlank c = true) : isConstraintChar c = true := by
  unfold isConstraintChar
  rw [h, Bool.or_true]

theorem isConstraintChar_sign (s : Sign) : ∀ c ∈ s.text, isConstraintChar c = true := by
  refine List.all_eq_true.mp ?_
  cases s <;> decide

theorem isNumeral_of_all {c : Char} {cs : List Char} (h : (c :: cs).all isDigit = true) :
    IsNumeral (c :: cs) :=
  ⟨List.cons_ne_nil c cs, List.all_eq_true.mp h⟩

theorem IsNumeral.isEmpty_eq {cs : List Char} (h : IsNumeral cs) : cs.isEmpty = false :=
  List.isEmpty_eq_false_iff.mpr h.1

theorem isNumeral_takeWhile {cs : List Char} (h : (cs.takeWhile isDigit).isEmpty = false) :
    IsNumeral (cs.takeWhile isDigit) :=
  ⟨List.isEmpty_eq_false_iff.mp h, fun _ hc => List.mem_takeWhile_imp hc⟩

theorem pragmaHere?_of_isPragma {major minor cs : List Char} (h : IsPragma major minor cs) :
    pragmaHere? cs = some (major, minor) := by
  obtain ⟨hmajor, hminor, gap, signs, rest, hgap, hblank, hsigns, hrest, rfl⟩ := h
  obtain ⟨g, gs, rfl⟩ := List.exists_cons_of_ne_nil hgap
  have hword := (run_append ("solidity".toList ++ (signs ++ (major ++ '.' :: (minor ++ rest)))) hblank
    (by rintro c ⟨⟩; decide)).2
  have hdigit : ∀ c ∈ (major ++ '.' :: (minor ++ rest)).head?, isConstraintChar c = false := by
    intro c hc
    rw [List.head?_append_of_ne_nil _ hmajor.1] at hc
    exact isConstraintChar_of_isDigit (hmajor.2 c (List.mem_of_mem_head? hc))
  obtain ⟨hmajorRun, hpoint⟩ := run_append ('.' :: (minor ++ rest)) hmajor.2
    (by rintro c ⟨⟩; decide)
  have hafterPoint : after? ['.'] ('.' :: (minor ++ rest)) = some (minor ++ rest) :=
    after?_append ['.'] (minor ++ rest)
  unfold pragmaHere?
  rw [after?_append, Option.bind_eq_bind, Option.bind_some, List.cons_append, List.head?_cons,
    Option.bind_eq_bind, Option.bind_some, hblank g List.mem_cons_self, ← List.cons_append, hword,
    after?_append]
  dsimp only [Option.bind_eq_bind, Option.bind_some]
  rw [if_neg (show ¬ (!true) = true by decide), (run_append _ hsigns hdigit).2, hmajorRun, hpoint,
    hafterPoint, Option.bind_some, (run_append _ hminor.2 hrest).1, hmajor.isEmpty_eq, hminor.isEmpty_eq]
  rfl

theorem isPragma_of_pragmaHere? {major minor cs : List Char} (h : pragmaHere? cs = some (major, minor)) :
    IsPragma major minor cs := by
  unfold pragmaHere? at h
  obtain ⟨r, hr, hafterWord⟩ := Option.bind_eq_some_iff.mp h
  obtain ⟨g, hg, hgap⟩ := Option.bind_eq_some_iff.mp hafterWord
  obtain rfl := eq_append_of_after? hr
  obtain ⟨hblank, hword⟩ := Option.ite_none_left_eq_some.mp hgap
  obtain ⟨t, ht, hversion⟩ := Option.bind_eq_some_iff.mp hword
  obtain ⟨u, hu, hread⟩ := Option.bind_eq_some_iff.mp hversion
  obtain ⟨hnonempty, heq⟩ := Option.ite_none_left_eq_some.mp hread
  rw [Bool.or_eq_true, not_or, Bool.not_eq_true, Bool.not_eq_true] at hnonempty
  obtain ⟨rfl, rfl⟩ := Prod.mk.inj (Option.some.inj heq)
  refine ⟨isNumeral_takeWhile hnonempty.1, isNumeral_takeWhile hnonempty.2, r.takeWhile isBlank,
    t.takeWhile isConstraintChar, u.dropWhile isDigit, ?_, fun c hc => List.mem_takeWhile_imp hc,
    fun c hc => List.mem_takeWhile_imp hc, fun c hc => Text.not_of_mem_head?_dropWhile hc, ?_⟩
  · obtain ⟨gs, rfl⟩ := List.head?_eq_some_iff.mp hg
    have hfirst : isBlank g = true := by simpa using hblank
    rw [List.takeWhile_cons_of_pos hfirst]
    exact List.cons_ne_nil _ _
  · -- each run and what stands behind it make up the text again
    rw [List.takeWhile_append_dropWhile, ← List.singleton_append, ← eq_append_of_after? hu,
      List.takeWhile_append_dropWhile, List.takeWhile_append_dropWhile, ← eq_append_of_after? ht,
      List.takeWhile_append_dropWhile]

/-- **The version of a pragma** is read exactly where a pragma stands. -/
theorem pragmaHere?_eq_some_iff {major minor cs : List Char} :
    pragmaHere? cs = some (major, minor) ↔ IsPragma major minor cs :=
  ⟨isPragma_of_pragmaHere?, pragmaHere?_of_isPragma⟩

theorem Writing.Opens.isPragma {w : Writing} {cs : List Char} (h : w.Opens cs) :
    IsPragma w.major w.minor cs := by
  obtain ⟨hmajor, hminor, _, gap, before, between, rest, hgap, hblank, hbefore, hbetween, hrest, rfl⟩ := h
  refine ⟨hmajor, hminor, gap, before ++ w.sign.text ++ between, w.patchText ++ rest, hgap, hblank,
    ?_, ?_, rfl⟩
  · intro c hc
    rw [List.mem_append, List.mem_append] at hc
    rcases hc with (hc | hc) | hc
    · exact isConstraintChar_of_isBlank (hbefore c hc)
    · exact isConstraintChar_sign w.sign c hc
    · exact isConstraintChar_of_isBlank (hbetween c hc)
  · intro c hc
    unfold Writing.patchText at hc
    cases hpatch : w.patch with
    | none =>
      rw [hpatch] at hc
      exact hrest c hc
    | some p =>
      rw [hpatch] at hc
      obtain rfl : '.' = c := Option.some.inj hc
      decide

/-- the first pragma of a text is the one that is read -/
theorem pragma?_append {pre cs major minor : List Char} (hhere : IsPragma major minor cs)
    (hfirst : ∀ pre' r x y, pre ++ cs = pre' ++ r → IsPragma x y r → pre.length ≤ pre'.length) :
    pragma? (pre ++ cs) = some (major, minor) := by
  have hread := pragmaHere?_of_isPragma hhere
  induction pre with
  | nil =>
    cases cs with
    | nil => exact nomatch hread
    | cons c r =>
      show (pragmaHere? (c :: r)).or (pragma? r) = some (major, minor)
      rw [hread]
      rfl
  | cons c pre ih =>
    have hnone : pragmaHere? (c :: (pre ++ cs)) = none := by
      by_contra hsome
      obtain ⟨v, hv⟩ := Option.ne_none_iff_exists'.mp hsome
      have hle := hfirst [] _ v.1 v.2 rfl (isPragma_of_pragmaHere? hv)
      exact Nat.not_succ_le_zero _ hle
    show (pragmaHere? (c :: (pre ++ cs))).or (pragma? (pre ++ cs)) = some (major, minor)
    rw [hnone, Option.none_or]
    refine ih fun pre' r x y heq hpragma => ?_
    exact Nat.le_of_succ_le_succ (hfirst (c :: pre') r x y (congrArg (c :: ·) heq) hpragma)

/-- no pragma stands in front of a place if none is read there -/
theorem le_length_of_isPragma {cs pre r major minor : List Char} {n : Nat}
    (hnone : ∀ k < n, pragmaHere? (cs.drop k) = none) (heq : cs = pre ++ r)
    (hpragma : IsPragma major minor r) : n ≤ pre.length := by
  by_contra hshort
  have hunread := hnone pre.length (by omega)
  rw [heq, List.drop_left, pragmaHere?_of_isPragma hpragma] at hunread
  exact nomatch hunread

/-! ## the check -/

variable {α : Type}

/-- it breaks on a version with a number that is too long to be read -/
theorem isSome_fault?_integerOverflow {b : Bundle α} {major minor : List Char}
    (hoperator : b.source.toList.any isOperator = true) (hsafe : Text.contains b.source "SafeMath" = false)
    (hpragma : pragma? b.source.toList = some (major, minor)) :
    (fault? "integer_overflow" b).isSome = true ↔
      digitLimit < major.length ∨ digitLimit < minor.length := by
  unfold fault? longVersion?
  rw [if_pos rfl, hoperator, hsafe, hpragma, Option.isSome_map]
  show ([major.length, minor.length].find? (digitLimit < ·)).isSome = true ↔ _
  rw [List.find?_isSome]
  simp only [List.mem_cons, List.not_mem_nil, or_false, exists_eq_or_imp, exists_eq_left,
    decide_eq_true_eq]

/-- otherwise a version is judged by its numbers -/
theorem integerOverflow_eq_nil_iff {b : Bundle α} {major minor : List Char}
    (hoperator : b.source.toList.any isOperator = true) (hsafe : Text.contains b.source "SafeMath" = false)
    (hpragma : pragma? b.source.toList = some (major, minor)) :
    integerOverflow b = [] ↔ 0 < digitsValue major ∨ 8 ≤ digitsValue minor := by
  have hchecked : hasCheckedArithmetic b.source = true ↔ 0 < digitsValue major ∨ 8 ≤ digitsValue minor := by
    unfold hasCheckedArithmetic
    rw [hsafe, hpragma, Bool.false_or, Bool.or_eq_true, decide_eq_true_eq, decide_eq_true_eq]
  rw [← hchecked]
  unfold integerOverflow
  rw [hoperator, Bool.not_true, Bool.false_or]
  cases hasCheckedArithmetic b.source with
  | false => exact iff_of_false nofun nofun
  | true => exact iff_of_true rfl rfl

/-- **The check of a pragma** with a single constraint, in a source text with operators and without the
library: it breaks on a number that is too long to be read, and otherwise finds nothing exactly if the version
named is one with checked arithmetic. No unchecked compiler is then allowed, unless that version is an upper
bound. -/
theorem integerOverflow_pragma {b : Bundle α} {w : Writing} {pre cs : List Char}
    (hsource : b.source.toList = pre ++ cs) (hopens : w.Opens cs)
    (hfirst : ∀ pre' r major minor, b.source.toList = pre' ++ r → IsPragma major minor r →
      pre.length ≤ pre'.length)
    (hoperator : b.source.toList.any isOperator = true)
    (hsafe : Text.contains b.source "SafeMath" = false) :
    let check := answer ("integer_overflow", integerOverflow) b
    let isLong := digitLimit < w.major.length ∨ digitLimit < w.minor.length
    ((∃ f, check = .error f) ↔ isLong) ∧
    (check = .ok [] ↔ ¬ isLong ∧ w.constraint.IsChecked) ∧
    (check = .ok [] → ((∀ v, w.constraint.Allows v → v.IsChecked) ↔ ¬ w.sign.IsUpper)) := by
  intro check isLong
  have hpragma : pragma? b.source.toList = some (w.major, w.minor) := by
    rw [hsource] at hfirst ⊢
    exact pragma?_append hopens.isPragma hfirst
  have hfault : (fault? "integer_overflow" b).isSome = true ↔ isLong :=
    isSome_fault?_integerOverflow hoperator hsafe hpragma
  have hok : check = .ok [] ↔ ¬ isLong ∧ w.constraint.IsChecked := by
    rw [answer_eq_ok_iff, ← Option.not_isSome_iff_eq_none, hfault]
    exact and_congr_right fun _ => integerOverflow_eq_nil_iff hoperator hsafe hpragma
  refine ⟨?_, hok, fun h => (hok.mp h).2.allows_iff⟩
  rw [← hfault, Option.isSome_iff_exists]
  exact exists_congr fun f => answer_eq_error_iff

/-- a bundle of nothing but a source text -/
def sourced (text : String) : Bundle Float :=
  ⟨"0xabc", "eth", none, some text, none, none, none, none, none⟩

/-- a comment in front of the pragma, a line break in it, and a minor version of two digits -/
theorem integerOverflow_pragma_spaced :
    let w : Writing := ⟨.atLeast, ['0'], ['1', '0'], some ['3']⟩
    w.Opens "pragma  solidity\n>= 0.10.3; c = a + b;".toList ∧
      answer ("integer_overflow", integerOverflow)
        (sourced "/* pragma */ pragma  solidity\n>= 0.10.3; c = a + b;") = .ok [] ∧
      ∀ v, w.constraint.Allows v → v.IsChecked := by
  intro w
  have hopens : w.Opens "pragma  solidity\n>= 0.10.3; c = a + b;".toList := by
    refine ⟨isNumeral_of_all (by decide), isNumeral_of_all (by decide), ?_, [' ', ' '], ['\n'], [' '],
      "; c = a + b;".toList, nofun, List.all_eq_true.mp (by decide), List.all_eq_true.mp (by decide),
      List.all_eq_true.mp (by decide), ?_, by decide +kernel⟩
    · rintro p ⟨⟩
      exact isNumeral_of_all (by decide)
    · rintro c ⟨⟩
      decide
  let b := sourced "/* pragma */ pragma  solidity\n>= 0.10.3; c = a + b;"
  have hsource : b.source.toList =
      "/* pragma */ ".toList ++ "pragma  solidity\n>= 0.10.3; c = a + b;".toList := by
    decide +kernel
  have hnone : ∀ k < "/* pragma */ ".toList.length, pragmaHere? (b.source.toList.drop k) = none := by
    decide +kernel
  obtain ⟨_, hok, hallowed⟩ := integerOverflow_pragma hsource hopens
    (fun _ _ _ _ heq hpragma => le_length_of_isPragma hnone heq hpragma) (by decide +kernel)
    (by decide +kernel)
  have hfound := hok.mpr ⟨by decide +kernel, by decide +kernel⟩
  exact ⟨hopens, hfound, (hallowed hfound).mpr nofun⟩

/-- All compilers that the pragma allows are unchecked, and nothing is found. -/
theorem integerOverflow_clears :
    let w : Writing := ⟨.below, ['0'], ['8'], some ['0']⟩
    let b := sourced "pragma solidity <0.8.0; c = a + b;"
    w.Opens b.source.toList ∧
      (∀ pre r major minor, b.source.toList = pre ++ r → IsPragma major minor r → pre = []) ∧
      b.source.toList.any isOperator = true ∧ Text.contains b.source "SafeMath" = false ∧
      answer ("integer_overflow", integerOverflow) b = .ok [] ∧
      w.constraint.Allows ⟨0, 7, 6⟩ ∧ ∀ v, w.constraint.Allows v → ¬ v.IsChecked := by
  intro w b
  have hnone : ∀ k < 34, pragmaHere? (b.source.toList.tail.drop k) = none := by decide +kernel
  have hreadable : fault? "integer_overflow" b = none := Option.isNone_iff_eq_none.mp (by decide +kernel)
  have hcleared : integerOverflow b = [] := by decide +kernel
  refine ⟨?_, fun pre r _ _ heq hpragma => ?_, by decide +kernel, by decide +kernel, ?_, ?_, ?_⟩
  · refine ⟨isNumeral_of_all (by decide), isNumeral_of_all (by decide), ?_, [' '], [' '], [],
      "; c = a + b;".toList, nofun, List.all_eq_true.mp (by decide), List.all_eq_true.mp (by decide),
      nofun, ?_, by decide +kernel⟩
    · rintro p ⟨⟩
      exact isNumeral_of_all (by decide)
    · rintro c ⟨⟩
      decide
  · cases pre with
    | nil => rfl
    | cons c pre =>
      have htail : b.source.toList.tail = pre ++ r := congrArg List.tail heq
      have hlong := le_length_of_isPragma hnone htail hpragma
      have hlength : 33 = pre.length + r.length := by
        rw [← List.length_append, ← htail]
        decide +kernel
      omega
  · exact answer_eq_ok_iff.mpr ⟨hreadable, hcleared⟩
  · exact .inr ⟨rfl, .inl (by decide)⟩
  · rintro v (hmajor | ⟨hmajor, hminor | ⟨_, p, ⟨⟩, hpatch⟩⟩)
    · exact absurd hmajor (Nat.not_lt_zero _)
    · have hzero : 0 = v.major := hmajor
      have hlow : v.minor < 8 := hminor
      unfold Version.IsChecked
      omega
    · exact absurd hpatch (Nat.not_lt_zero _)

end ContractRisk.Heuristic
