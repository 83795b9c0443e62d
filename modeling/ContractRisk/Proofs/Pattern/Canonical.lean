import ContractRisk.Proofs.Pattern.Soundness
import ContractRisk.Proofs.Value.Firsts

/-!
# Patterns are in normal form

A definition drops the indicators that are equal to one before them, turns names into severities and
categories, and takes all else as it is. What comes out is canonical (`Pattern.define_canonical`): of the
indicators the first occurrences are left, and the pattern, defined again from its own fields, is the same. So
an update starts from fields that are accepted and stay as they are, and only what it names can be refused.
-/

namespace ContractRisk.Pattern

variable {α : Type}

/-- **Patterns are canonical.** A pattern holds the first occurrences of the indicators that it is defined
with, in order. No two of them are equal, and each one that is given is there or has an equal one that is;
equality goes by value across the kinds of numbers, and NaN is not equal to itself. Defined again from the
fields it then has, the pattern is accepted and has the same fields. -/
theorem define_canonical {d : Draft α} {p : Pattern α} (h : define d = .ok p) :
    (∃ given, d.indicators.items? = some given ∧ Value.Reduced given p.indicators) ∧
      define p.toDraft = .ok p := by
  have hdefines := define_eq_ok_iff.mp h
  obtain ⟨given, hitems, hkeys, hkept⟩ := distinctItems_given hdefines.indicators
  refine ⟨⟨given, hitems, ?_⟩, hdefines.sound.again⟩
  rw [hkept]
  exact Value.reduced_distinct hkeys

/-! ### indicators of several kinds -/

/-- the number one in three kinds, alone and in a pair, besides texts -/
def mixedIndicators : List Value :=
  [.int 1, .text "1", .bool true, .tuple [.float 1.0, .text "b"], .float 1.0, .text "a",
    .tuple [.bool true, .text "b"], .text "a"]

def mixedDraft : Draft Float where
  id := .text "CUSTOM001"
  name := .text "n"
  description := .null
  severity := .text "high"
  confidence := .int 80
  category := .text "honeypot"
  condition := .inl (.contains "x")
  indicators := .list mixedIndicators
  mitigation := .text ""
  referenceId := .int 7
  references := .text "rr"
  version := .bool true

def mixedPattern : Pattern Float where
  id := "CUSTOM001"
  name := .text "n"
  description := .null
  severity := .high
  confidence := 80
  category := .honeypot
  condition := .contains "x"
  indicators := [.int 1, .text "1", .tuple [.float 1.0, .text "b"], .text "a"]
  mitigation := .text ""
  referenceId := .int 7
  references := [.text "r", .text "r"]
  version := .flag true

theorem distinct_mixedIndicators : Value.distinct mixedIndicators = mixedPattern.indicators := by
  have hone : Binary64.whole? 1.0 = some 1 := by decide +kernel
  simp [mixedIndicators, mixedPattern, Value.distinct, Value.same, Value.sameAll, Value.number?,
    Value.Number.same, hone]

theorem define_mixedDraft : define mixedDraft = .ok mixedPattern := by
  refine define_eq_ok_iff.mpr {
    id := checkId_text.mpr (by decide)
    confidence := rfl
    version := rfl
    condition := rfl
    severity := rfl
    category := rfl
    indicators := ?_
    references := rfl
    name := rfl
    description := rfl
    mitigation := rfl
    referenceId := rfl }
  exact congrArg Except.ok distinct_mixedIndicators

theorem define_canonical_mixed : define mixedDraft = .ok mixedPattern ∧
    Value.Reduced mixedIndicators mixedPattern.indicators ∧ define mixedPattern.toDraft = .ok mixedPattern := by
  obtain ⟨⟨given, hitems, hreduced⟩, hagain⟩ := define_canonical define_mixedDraft
  cases hitems
  exact ⟨define_mixedDraft, hreduced, hagain⟩

end ContractRisk.Pattern
