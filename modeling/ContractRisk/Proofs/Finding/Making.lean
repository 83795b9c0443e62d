import ContractRisk.Finding.Synthesis
import Mathlib.Data.List.Basic

/-!
# Which findings can be made

A finding is made of the texts of a pattern or of a detector, which need not be texts: they are free
data until the finding checks them. Bytes in UTF-8 pass for the text that they encode. `MatchFinding id m b f` and `SignalFinding id d s b f` say field by
field what the finding of a match and of a signal holds.

* `ofMatch_eq_ok_iff`, `ofSignal_eq_ok_iff`   the finding that is made is the one that is described;
* `ofMatch_isOk_iff`, `ofSignal_isOk_iff`     it is made exactly if all the data it shows are texts,
  whatever its identifier.
-/

namespace ContractRisk

variable {α σ : Type}

/-! ## checks in a row -/

theorem exists_ok_of_any {ε β : Type} {x : Except ε β} {p : β → Bool}
    (h : x.toOption.any p = true) : ∃ a, x = .ok a ∧ p a = true := by
  cases x with
  | error e => exact nomatch h
  | ok a => exact ⟨a, rfl, h⟩

namespace Check

variable {β γ : Type}

theorem map_eq_ok {f : β → γ} {x : Check β} {c : γ} :
    f <$> x = .ok c ↔ ∃ a, x = .ok a ∧ f a = c := by
  cases x with
  | error p => exact ⟨fun h => (nomatch h), fun ⟨_, h, _⟩ => (nomatch h)⟩
  | ok a => exact ⟨fun h => ⟨a, rfl, Except.ok.inj h⟩, fun ⟨_, h, hf⟩ => by cases h; rw [← hf]; rfl⟩

theorem seq_eq_ok {f : Check (β → γ)} {x : Check β} {c : γ} :
    f <*> x = .ok c ↔ ∃ g, f = .ok g ∧ ∃ a, x = .ok a ∧ g a = c := by
  cases f with
  | error p =>
    refine ⟨fun h => ?_, fun ⟨_, h, _⟩ => (nomatch h)⟩
    cases x <;> exact nomatch h
  | ok g =>
    cases x with
    | error q => exact ⟨fun h => (nomatch h), fun ⟨_, _, _, h, _⟩ => (nomatch h)⟩
    | ok a =>
      exact ⟨fun h => ⟨g, rfl, a, rfl, Except.ok.inj h⟩,
        fun ⟨_, hg, _, ha, hf⟩ => by cases hg; cases ha; rw [← hf]; rfl⟩

theorem text_eq_ok {path : List String} {v : Value} {s : String} :
    text path v = .ok s ↔ v.asText? = some s := by
  unfold text
  cases v.asText? with
  | none => exact ⟨fun h => (nomatch h), fun h => (nomatch h)⟩
  | some t => exact ⟨fun h => congrArg some (Except.ok.inj h), fun h => congrArg Except.ok (Option.some.inj h)⟩

theorem each_text_eq_ok {path : List String} {i : Nat} {vs : List Value} {ss : List String} :
    each path text i vs = .ok ss ↔ vs.map Value.asText? = ss.map some := by
  induction vs generalizing i ss with
  | nil =>
    constructor
    · intro h; cases h; rfl
    · intro h
      rw [List.map_eq_nil_iff.mp h.symm]
      rfl
  | cons v vs ih =>
    unfold each
    rw [seq_eq_ok]
    simp only [map_eq_ok, text_eq_ok, ih]
    constructor
    · rintro ⟨_, ⟨s, hs, rfl⟩, ss, hss, rfl⟩
      rw [List.map_cons, List.map_cons, hs, hss]
    · intro h
      cases ss with
      | nil => exact nomatch h
      | cons s ss =>
        obtain ⟨hs, hss⟩ := List.cons.inj h
        exact ⟨_, ⟨s, hs, rfl⟩, ss, hss, rfl⟩

end Check

/-! ## data that are texts -/

/-- a text, or bytes that encode one -/
def Value.IsText (v : Value) : Prop := ∃ s, v.asText? = some s

/-- every part of the pattern that a finding shows is a text -/
structure Pattern.Textual (p : Pattern α) : Prop where
  name : p.name.IsText
  description : p.description.IsText
  indicators : ∀ v ∈ p.indicators, v.IsText
  mitigation : p.mitigation.IsText

structure Detector.Textual (d : Detector α σ) : Prop where
  name : d.name.IsText
  description : d.description.IsText
  indicators : ∀ v ∈ d.indicators, v.IsText
  mitigation : d.mitigation.IsText

theorem exists_texts_iff {vs : List Value} :
    (∃ ss : List String, vs.map Value.asText? = ss.map some) ↔ ∀ v ∈ vs, v.IsText := by
  constructor
  · rintro ⟨ss, hss⟩ v hv
    obtain ⟨s, _, hs⟩ := List.mem_map.mp (hss ▸ List.mem_map_of_mem hv)
    exact ⟨s, hs.symm⟩
  · intro h
    induction vs with
    | nil => exact ⟨[], rfl⟩
    | cons v vs ih =>
      obtain ⟨s, hs⟩ := h v List.mem_cons_self
      obtain ⟨ss, hss⟩ := ih fun w hw => h w (List.mem_cons_of_mem _ hw)
      exact ⟨s :: ss, by rw [List.map_cons, List.map_cons, hs, hss]⟩

attribute [ext] Finding

namespace Finding

variable [Scalar α]

/-! ## the finding of a match -/

/-- `f` is the finding of the match `m` -/
structure MatchFinding (id : String) (m : PatternMatch α) (b : Bundle α) (f : Finding α) : Prop where
  findingId : f.findingId = id
  patternId : f.patternId = m.pattern.id
  severity : f.severity = m.pattern.severity
  confidence : f.confidence = m.pattern.confidence
  title : m.pattern.name.asText? = some f.title
  description : m.pattern.description.asText? = some f.description
  evidence : f.evidence =
    ("Pattern " ++ m.pattern.id ++ " detected in contract " ++ b.address) :: m.evidence
  indicators : m.pattern.indicators.map Value.asText? = f.indicators.map some
  mitigation : m.pattern.mitigation.asText? = some f.mitigation
  category : f.category = m.pattern.category
  riskScore : f.riskScore = ruleRisk m.pattern.confidence m.pattern.severity
  source : f.source = .rule
  metadata : f.metadata = [("pattern_id", .text m.pattern.id),
    ("pattern_version", m.pattern.version.toValue), ("reference_id", m.pattern.referenceId)]

section
variable {id : String} {m : PatternMatch α} {b : Bundle α} {f : Finding α}

theorem ofMatch_eq_ok_iff : ofMatch id m b = .ok f ↔ MatchFinding id m b f := by
  unfold ofMatch texts
  simp only [Check.seq_eq_ok, Check.map_eq_ok, Check.text_eq_ok, Check.each_text_eq_ok]
  constructor
  · rintro ⟨_, ⟨_, ⟨_, ⟨title, htitle, rfl⟩, description, hdescription, rfl⟩,
      indicators, hindicators, rfl⟩, mitigation, hmitigation, rfl⟩
    exact ⟨rfl, rfl, rfl, rfl, htitle, hdescription, rfl, hindicators, hmitigation, rfl, rfl, rfl,
      rfl⟩
  · intro h
    refine ⟨_, ⟨_, ⟨_, ⟨_, h.title, rfl⟩, _, h.description, rfl⟩, _, h.indicators, rfl⟩,
      _, h.mitigation, ?_⟩
    exact Finding.ext h.findingId.symm h.patternId.symm h.severity.symm h.confidence.symm rfl rfl
      h.evidence.symm rfl rfl h.category.symm h.riskScore.symm h.source.symm h.metadata.symm

theorem MatchFinding.rename (h : MatchFinding id m b f) (id' : String) :
    MatchFinding id' m b { f with findingId := id' } := { h with findingId := rfl }

theorem ofMatch_isOk_iff : (∃ f, ofMatch id m b = .ok f) ↔ m.pattern.Textual := by
  constructor
  · rintro ⟨f, hf⟩
    have h := ofMatch_eq_ok_iff.mp hf
    exact ⟨⟨_, h.title⟩, ⟨_, h.description⟩, exists_texts_iff.mp ⟨_, h.indicators⟩, ⟨_, h.mitigation⟩⟩
  · rintro ⟨⟨title, htitle⟩, ⟨description, hdescription⟩, hindicators, ⟨mitigation, hmitigation⟩⟩
    obtain ⟨indicators, hindicators⟩ := exists_texts_iff.mpr hindicators
    unfold ofMatch texts
    simp only [Check.seq_eq_ok, Check.map_eq_ok, Check.text_eq_ok, Check.each_text_eq_ok]
    exact ⟨_, _, ⟨_, ⟨_, ⟨title, htitle, rfl⟩, description, hdescription, rfl⟩,
      indicators, hindicators, rfl⟩, mitigation, hmitigation, rfl⟩

end

/-! ## the finding of a signal -/

/-- what a finding shows as evidence of a signal: a line of its own if the signal brings none -/
def shownEvidence (d : Detector α σ) (s : Signal α) (b : Bundle α) : List Value :=
  if s.evidence.isEmpty then [.text (d.name.display ++ " on contract " ++ b.address)] else s.evidence

/-- `f` is the finding of the signal `s` of the detector `d` -/
structure SignalFinding (id : String) (d : Detector α σ) (s : Signal α) (b : Bundle α)
    (f : Finding α) : Prop where
  findingId : f.findingId = id
  patternId : f.patternId = d.patternId
  severity : f.severity = s.severity.getD d.severity
  confidence : f.confidence = percentage s.confidence
  title : d.name.asText? = some f.title
  description : d.description.asText? = some f.description
  evidence : (shownEvidence d s b).map Value.asText? = f.evidence.map some
  indicators : d.indicators.map Value.asText? = f.indicators.map some
  mitigation : d.mitigation.asText? = some f.mitigation
  category : f.category = d.category
  riskScore : f.riskScore = Scalar.ofInt (percentage s.confidence) * d.riskScale
  source : f.source = .detector
  metadata : f.metadata = Check.overlay [("detector_id", .text d.id),
    ("raw_confidence", scalarValue s.confidence), ("threshold", scalarValue d.threshold)] s.metadata

section
variable {id : String} {d : Detector α σ} {s : Signal α} {b : Bundle α} {f : Finding α}

theorem ofSignal_eq_ok_iff : ofSignal id d s b = .ok f ↔ SignalFinding id d s b f := by
  unfold ofSignal texts
  simp only [Check.seq_eq_ok, Check.map_eq_ok, Check.text_eq_ok, Check.each_text_eq_ok]
  constructor
  · rintro ⟨_, ⟨_, ⟨_, ⟨_, ⟨title, htitle, rfl⟩, description, hdescription, rfl⟩,
      evidence, hevidence, rfl⟩, indicators, hindicators, rfl⟩, mitigation, hmitigation, rfl⟩
    exact ⟨rfl, rfl, rfl, rfl, htitle, hdescription, hevidence, hindicators, hmitigation, rfl, rfl,
      rfl, rfl⟩
  · intro h
    refine ⟨_, ⟨_, ⟨_, ⟨_, ⟨_, h.title, rfl⟩, _, h.description, rfl⟩, _, h.evidence, rfl⟩,
      _, h.indicators, rfl⟩, _, h.mitigation, ?_⟩
    exact Finding.ext h.findingId.symm h.patternId.symm h.severity.symm h.confidence.symm rfl rfl
      rfl rfl rfl h.category.symm h.riskScore.symm h.source.symm h.metadata.symm

theorem SignalFinding.rename (h : SignalFinding id d s b f) (id' : String) :
    SignalFinding id' d s b { f with findingId := id' } := { h with findingId := rfl }

omit [Scalar α] in
theorem shownEvidence_texts_iff :
    (∀ v ∈ shownEvidence d s b, v.IsText) ↔ ∀ v ∈ s.evidence, v.IsText := by
  unfold shownEvidence
  cases hs : s.evidence with
  | nil =>
    refine ⟨fun _ v hv => (nomatch hv), fun _ v hv => ?_⟩
    rw [List.mem_singleton.mp hv]
    exact ⟨_, rfl⟩
  | cons v vs => exact Iff.rfl

theorem ofSignal_isOk_iff :
    (∃ f, ofSignal id d s b = .ok f) ↔ d.Textual ∧ ∀ v ∈ s.evidence, v.IsText := by
  rw [← shownEvidence_texts_iff (d := d) (b := b)]
  constructor
  · rintro ⟨f, hf⟩
    have h := ofSignal_eq_ok_iff.mp hf
    refine ⟨?_, exists_texts_iff.mp ⟨_, h.evidence⟩⟩
    exact ⟨⟨_, h.title⟩, ⟨_, h.description⟩, exists_texts_iff.mp ⟨_, h.indicators⟩, ⟨_, h.mitigation⟩⟩
  · rintro ⟨⟨⟨title, htitle⟩, ⟨description, hdescription⟩, hindicators, ⟨mitigation, hmitigation⟩⟩,
      hevidence⟩
    obtain ⟨indicators, hindicators⟩ := exists_texts_iff.mpr hindicators
    obtain ⟨evidence, hevidence⟩ := exists_texts_iff.mpr hevidence
    unfold ofSignal texts
    simp only [Check.seq_eq_ok, Check.map_eq_ok, Check.text_eq_ok, Check.each_text_eq_ok]
    exact ⟨_, _, ⟨_, ⟨_, ⟨_, ⟨title, htitle, rfl⟩, description, hdescription, rfl⟩,
      evidence, hevidence, rfl⟩, indicators, hindicators, rfl⟩, mitigation, hmitigation, rfl⟩

end

end Finding

end ContractRisk
