import ContractRisk.Pattern
import ContractRisk.Proofs.Value.Steps

/-!
# What a definition checks

`Pattern.define` gives a pattern exactly if every field of the draft passes its check, and the pattern
then holds what the checks give (`define_eq_ok_iff`). What the checks say about identifier and
confidence follows from that alone.
-/

namespace ContractRisk

theorem checkId_eq_ok {v : Value} {s : String} (h : checkId v = .ok s) :
    v = .text s ∧ (Text.trim s).isEmpty = false ∧ isReserved s = false := by
  unfold checkId at h
  split at h
  · cases h
  · cases v with
    | text t =>
      dsimp only at h
      split at h
      · cases h
      · next hblank =>
        split at h
        · cases h
        · next hreserved =>
          cases h
          exact ⟨rfl, by simpa using hblank, by simpa using hreserved⟩
    | _ => cases h

theorem checkId_text {s : String} : checkId (.text s) = .ok s ↔
    s.isEmpty = false ∧ (Text.trim s).isEmpty = false ∧ isReserved s = false := by
  constructor
  · intro h
    refine ⟨?_, (checkId_eq_ok h).2⟩
    cases hs : s.isEmpty with
    | true =>
      simp only [checkId, Value.isVoid, hs, if_true] at h
      exact nomatch h
    | false => rfl
  · rintro ⟨hvoid, hblank, hreserved⟩
    simp [checkId, Value.isVoid, hvoid, hblank, hreserved]

instance (s : String) : Decidable (checkId (.text s) = .ok s) := decidable_of_iff' _ checkId_text

theorem checkConfidence_eq_ok {v : Value} {i : Int} (h : checkConfidence v = .ok i) :
    v = .int i ∧ 0 ≤ i ∧ i ≤ 100 := by
  cases v with
  | int j =>
    dsimp only [checkConfidence] at h
    split at h
    · next hj => cases h; exact ⟨rfl, hj⟩
    · cases h
  | _ => cases h

namespace Pattern

variable {α : Type}

/-- a pattern holds what the checks of a draft give -/
structure Defines (d : Draft α) (p : Pattern α) : Prop where
  id : checkId d.id = .ok p.id
  confidence : checkConfidence d.confidence = .ok p.confidence
  version : checkVersion d.version = .ok p.version
  condition : checkCondition d.condition = .ok p.condition
  severity : severityOf d.severity = .ok p.severity
  category : categoryOf d.category = .ok p.category
  indicators : distinctItems d.indicators = .ok p.indicators
  references : itemsOf d.references = .ok p.references
  name : p.name = d.name
  description : p.description = d.description
  mitigation : p.mitigation = d.mitigation
  referenceId : p.referenceId = d.referenceId

theorem define_eq_ok_iff {d : Draft α} {p : Pattern α} : define d = .ok p ↔ Defines d p := by
  unfold define
  simp only [bind_eq_ok_iff]
  constructor
  · rintro ⟨_, hid, _, hconfidence, _, hversion, _, hcondition, _, hseverity, _, hcategory,
      _, hindicators, _, hreferences, hp⟩
    cases hp
    exact ⟨hid, hconfidence, hversion, hcondition, hseverity, hcategory, hindicators, hreferences,
      rfl, rfl, rfl, rfl⟩
  · intro h
    refine ⟨_, h.id, _, h.confidence, _, h.version, _, h.condition, _, h.severity, _, h.category,
      _, h.indicators, _, h.references, ?_⟩
    rw [← h.name, ← h.description, ← h.mitigation, ← h.referenceId]
    rfl

theorem Defines.not_isReserved {d : Draft α} {p : Pattern α} (h : Defines d p) :
    isReserved p.id = false := (checkId_eq_ok h.id).2.2

theorem Defines.confidence_bounds {d : Draft α} {p : Pattern α} (h : Defines d p) :
    0 ≤ p.confidence ∧ p.confidence ≤ 100 := (checkConfidence_eq_ok h.confidence).2

end Pattern

end ContractRisk
