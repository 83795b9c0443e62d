import ContractRisk.Proofs.Finding.Making
import ContractRisk.Proofs.Finding.Ranking
import ContractRisk.Proofs.Value.Equality

/-!
# Findings that differ in their identifiers

`Finding.unnamed` is a finding without its identifier. Two findings of one lead are the same without it
(`ofMatch_unnamed`, `ofSignal_unnamed`), and ranking does not look at it (`rank_unnamed`).

* `sameContent_iff`   findings that are the same without their identifiers have the same content exactly
  if their risk score is not NaN, provided that no NaN occurs in their metadata.
-/

namespace ContractRisk

/-- no NaN among the data that findings hand on from a pattern -/
structure Pattern.NoNaN (p : Pattern Float) : Prop where
  version : p.version.toValue.hasNaN = false
  referenceId : p.referenceId.hasNaN = false

/-- entries put over others are of the former or of the latter -/
theorem mem_overlay {m : String × Value} {fs gs : Fields} (h : m ∈ Check.overlay fs gs) :
    m ∈ fs ∨ m ∈ gs := by
  unfold Check.overlay at h
  induction gs generalizing fs with
  | nil => exact .inl h
  | cons g gs ih =>
    rw [List.foldl_cons] at h
    rcases ih h with h | h
    · split at h
      · obtain ⟨f, hf, rfl⟩ := List.mem_map.mp h
        split
        · exact .inr List.mem_cons_self
        · exact .inl hf
      · rcases List.mem_append.mp h with h | h
        · exact .inl h
        · exact .inr (List.mem_singleton.mp h ▸ List.mem_cons_self)
    · exact .inr (List.mem_cons_of_mem g h)

namespace Finding

section
variable {α : Type}

def unnamed (f : Finding α) : Finding α := { f with findingId := "" }

variable [Scalar α]

theorem ofMatch_unnamed {i j : String} {m : PatternMatch α} {b : Bundle α} {f g : Finding α}
    (hf : ofMatch i m b = .ok f) (hg : ofMatch j m b = .ok g) : f.unnamed = g.unnamed := by
  have hf' := ofMatch_eq_ok_iff.mpr ((ofMatch_eq_ok_iff.mp hf).rename "")
  have hg' := ofMatch_eq_ok_iff.mpr ((ofMatch_eq_ok_iff.mp hg).rename "")
  exact Except.ok.inj (hf'.symm.trans hg')

theorem ofSignal_unnamed {σ : Type} {i j : String} {d : Detector α σ} {s : Signal α} {b : Bundle α}
    {f g : Finding α} (hf : ofSignal i d s b = .ok f) (hg : ofSignal j d s b = .ok g) :
    f.unnamed = g.unnamed := by
  have hf' := ofSignal_eq_ok_iff.mpr ((ofSignal_eq_ok_iff.mp hf).rename "")
  have hg' := ofSignal_eq_ok_iff.mpr ((ofSignal_eq_ok_iff.mp hg).rename "")
  exact Except.ok.inj (hf'.symm.trans hg')

/-- the metadata of a finding of a signal are those of its detector and those of the signal -/
theorem SignalFinding.forall_metadata {σ : Type} {id : String} {d : Detector α σ} {s : Signal α}
    {b : Bundle α} {f : Finding α} (h : SignalFinding id d s b f) {P : Value → Prop}
    (hid : P (.text d.id)) (hconfidence : P (scalarValue s.confidence))
    (hthreshold : P (scalarValue d.threshold)) (hs : ∀ e ∈ s.metadata, P e.2) :
    ∀ e ∈ f.metadata, P e.2 := by
  rw [h.metadata]
  intro e he
  rcases mem_overlay he with he | he
  · simp only [List.mem_cons, List.not_mem_nil, or_false] at he
    rcases he with rfl | rfl | rfl
    · exact hid
    · exact hconfidence
    · exact hthreshold
  · exact hs e he

theorem rank_unnamed (fs : List (Finding α)) : (rank fs).map unnamed = rank (fs.map unnamed) :=
  List.map_mergeSort fun _ _ _ _ => rfl

theorem content_unnamed (f : Finding α) : f.unnamed.content = f.content := rfl

end

/-! ## content on doubles -/

variable {f g : Finding Float}

theorem hasNaN_content (hrisk : f.riskScore.isNaN = false)
    (hmetadata : ∀ m ∈ f.metadata, m.2.hasNaN = false) : (textMap f.content).hasNaN = false := by
  rw [Value.hasNaN_textMap]
  have hmap : (textMap f.metadata).hasNaN = false := Value.hasNaN_textMap.mpr hmetadata
  simp only [content, List.forall_mem_cons, textList, Value.hasNaN_text, Value.hasNaN_int,
    Value.hasNaN_texts, hmap, Value.hasNaN_scalar hrisk, true_and]
  exact fun e he => nomatch he

/-- NaN for a risk score is not equal to any risk score -/
theorem sameContent_of_isNaN (hrisk : f.riskScore.isNaN = true) : f.sameContent g = false := by
  have hfloat : ∀ y : Float, Value.same (scalarValue f.riskScore) (scalarValue y) = false := by
    intro y
    have hbeq : (f.riskScore == y) = false := Double.beq_of_isNaN hrisk y
    simpa [scalarValue, Scalar.toFloat, Value.same, Value.number?, Value.Number.same] using hbeq
  unfold sameContent textMap
  rw [Value.same, Bool.and_eq_false_iff]
  right
  apply Value.entriesAmong_of_mem (e := (.text "risk_score", scalarValue f.riskScore))
  · simp [content]
  · simp [content, Value.same, hfloat]

theorem sameContent_iff (hfg : f.unnamed = g.unnamed)
    (hmetadata : ∀ m ∈ f.metadata, m.2.hasNaN = false) :
    f.sameContent g = true ↔ f.riskScore.isNaN = false := by
  constructor
  · intro h
    cases hrisk : f.riskScore.isNaN with
    | false => rfl
    | true =>
      rw [sameContent_of_isNaN hrisk] at h
      exact nomatch h
  · intro hrisk
    unfold sameContent
    rw [← content_unnamed g, ← hfg, content_unnamed]
    exact Value.same_self _ (hasNaN_content hrisk hmetadata)

/-! ## metadata on doubles -/

theorem MatchFinding.hasNaN_metadata {id : String} {m : PatternMatch Float} {b : Bundle Float}
    (h : MatchFinding id m b f) (hm : m.pattern.NoNaN) : ∀ e ∈ f.metadata, e.2.hasNaN = false := by
  rw [h.metadata]
  simp [Value.hasNaN_text, hm.version, hm.referenceId]

/-- a signal that crosses a threshold has a number for its confidence, and so has the threshold -/
theorem SignalFinding.hasNaN_metadata {σ : Type} {id : String} {d : Detector Float σ}
    {s : Signal Float} {b : Bundle Float} (h : SignalFinding id d s b f)
    (hlt : d.threshold < s.confidence) (hs : ∀ e ∈ s.metadata, e.2.hasNaN = false) :
    ∀ e ∈ f.metadata, e.2.hasNaN = false := by
  obtain ⟨hthreshold, hconfidence⟩ := Double.isNaN_of_lt hlt
  exact h.forall_metadata (P := (·.hasNaN = false)) (Value.hasNaN_text d.id)
    (Value.hasNaN_scalar hconfidence) (Value.hasNaN_scalar hthreshold) hs

theorem hasNaN_escalation (id : String) (fs : List (Finding Float)) (b : Bundle Float) :
    ∀ e ∈ (escalation id (.ofFindings fs) b).metadata, e.2.hasNaN = false := by
  have hscore : (RiskProfile.ofFindings fs).score.isNaN = false := Double.isNaN_scoreOf _
  have hprofile : (textMap (RiskProfile.ofFindings fs).fields).hasNaN = false := by
    rw [Value.hasNaN_textMap]
    simp [RiskProfile.fields, Value.hasNaN_int, Value.hasNaN_scalar hscore]
  simp [escalation, Value.hasNaN_text, hprofile]

end Finding

end ContractRisk
