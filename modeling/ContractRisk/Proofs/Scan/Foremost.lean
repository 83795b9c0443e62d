import ContractRisk.Proofs.Number.Scaled
import ContractRisk.Proofs.Registry.Calls
import ContractRisk.Proofs.Scan.Escalation

/-!
# What stands before an escalation

The finding of an escalation is made last and has the risk score of a hundred. No finding has more, and the
ranking is stable. So what stands before it is what comes to a hundred as well: critical rules and detectors
at the scale one, both with full confidence.

* `IsRanking.before_last`   the last of the ranked findings, if none is above it, is preceded by its ties;
* `ruleRisk_cases`, `signalRisk_cases`   the bounds of a risk score, and when it is a hundred;
* `Completes.before_escalation`   what stands before an escalation has a risk score of a hundred;
* `scanSubject_foremost`    the findings before an escalation; there are none with the catalog and the
  standard detectors.
-/

namespace ContractRisk

/-! ## the last one among its ties -/

namespace Finding

variable {α : Type} [Scalar α]

/-- the findings that tie with the last one stand before it, in their order -/
theorem IsRanking.before_last {fs out : List (Finding α)} {g : Finding α}
    (h : IsRanking (fs ++ [g]) out) (hnew : g ∉ fs) (htop : ∀ f ∈ fs, ¬ g.riskScore < f.riskScore)
    (hself : ¬ g.riskScore < g.riskScore) :
    ∃ after, out = (fs.filter fun f => ¬ f.riskScore < g.riskScore) ++ g :: after := by
  have hties : ∀ f ∈ fs ++ [g], ties g f = decide (¬ f.riskScore < g.riskScore) := by
    intro f hf
    have hle : ¬ g.riskScore < f.riskScore := by
      rcases List.mem_append.mp hf with hf | hf
      · exact htop f hf
      · rwa [List.mem_singleton.mp hf]
    simp [ties, hle]
  have hlast : g ∈ fs ++ [g] := List.mem_append_right fs (List.mem_singleton_self g)
  obtain ⟨before, after, rfl⟩ := List.append_of_mem (h.perm.symm.subset hlast)
  -- the ties of `g` start with all that stands before `g` in the ranking, and end with `g` in the old order
  have hbefore : before.filter (ties g) = before := by
    refine List.filter_eq_self.mpr fun f hf => ?_
    rw [hties f (h.perm.subset (List.mem_append_left _ hf)), decide_eq_true_iff]
    exact (List.pairwise_append.mp h.descending).2.2 f hf g List.mem_cons_self
  have hg : ties g g = true := by simp [ties, hself]
  have hclass := h.stable g hlast
  rw [List.filter_append, hbefore, List.filter_cons_of_pos hg, List.filter_append,
    List.filter_cons_of_pos hg, List.filter_nil] at hclass
  have hfirst : before = fs.filter (ties g) := by
    rcases List.append_eq_append_iff.mp hclass with ⟨later, hfs, hlater⟩ | ⟨later, hfs, hlater⟩
    · cases later with
      | nil => rw [hfs, List.append_nil]
      | cons f later =>
        obtain ⟨rfl, _⟩ := List.cons.inj hlater
        have hmem : g ∈ fs.filter (ties g) := hfs ▸ List.mem_append_right _ List.mem_cons_self
        exact absurd (List.mem_of_mem_filter hmem) hnew
    · cases later with
      | nil => rw [hfs, List.append_nil]
      | cons f later => simp at hlater
  refine ⟨after, ?_⟩
  rw [hfirst, List.filter_congr fun f hf => hties f (List.mem_append_left _ hf)]

end Finding

/-! ## risk scores -/

theorem weight_unit (s : Severity) : 0.0 ≤ (s.weight : Float) ∧ (s.weight : Float) ≤ 1.0 ∧
    (((s.weight : Float) == 1.0) = true ↔ s = .critical) := by
  cases s <;> decide +kernel

theorem ruleRisk_cases {c : Int} (hc : 0 ≤ c ∧ c ≤ 100) (s : Severity) :
    (0.0 ≤ (ruleRisk c s : Float) ∧ (ruleRisk c s : Float) ≤ 100.0) ∧
      (¬ (ruleRisk c s : Float) < 100.0 ↔ s = .critical ∧ c = 100) := by
  obtain ⟨h0, h1, hone⟩ := weight_unit s
  obtain ⟨hbounds, hlt⟩ := Double.scaled_cases hc h0 h1
  refine ⟨hbounds, (not_congr hlt).trans ?_⟩
  rw [not_not, hone, and_comm]

theorem percentage_bounds (x : Float) : 0 ≤ Finding.percentage x ∧ Finding.percentage x ≤ 100 := by
  unfold Finding.percentage
  omega

namespace Finding

/-- the numbers of a finding are in their ranges -/
structure Bounded (f : Finding Float) : Prop where
  confidence : 0 ≤ f.confidence ∧ f.confidence ≤ 100
  riskScore : 0.0 ≤ f.riskScore ∧ f.riskScore ≤ 100.0

/-- a rule could not be more severe and more certain -/
def isSureRule (f : Finding Float) : Bool := f.severity = .critical ∧ f.confidence = 100

/-- the risk of a finding is not scaled down, and the detector could not be more certain -/
def isSureSignal {σ : Type} (x : (Detector Float σ × Signal Float) × Finding Float) : Bool :=
  x.2.confidence = 100 ∧ (x.1.1.riskScale == 1.0) = true

section
variable {b : Bundle Float} {id : String} {f : Finding Float}

theorem MatchFinding.bounded {m : PatternMatch Float} (h : MatchFinding id m b f)
    (hm : 0 ≤ m.pattern.confidence ∧ m.pattern.confidence ≤ 100) :
    f.Bounded ∧ (¬ f.riskScore < 100.0 ↔ f.isSureRule = true) := by
  obtain ⟨hbounds, htop⟩ := ruleRisk_cases hm m.pattern.severity
  refine ⟨⟨h.confidence ▸ hm, h.riskScore ▸ hbounds⟩, ?_⟩
  rw [h.riskScore, htop, isSureRule, decide_eq_true_iff, h.severity, h.confidence]

theorem SignalFinding.bounded {σ : Type} {d : Detector Float σ} {s : Signal Float}
    (h : SignalFinding id d s b f) (hd : 0.0 ≤ d.riskScale ∧ d.riskScale ≤ 1.0) :
    f.Bounded ∧ (¬ f.riskScore < 100.0 ↔ isSureSignal ((d, s), f) = true) := by
  obtain ⟨hbounds, hlt⟩ := Double.scaled_cases (percentage_bounds s.confidence) hd.1 hd.2
  refine ⟨⟨h.confidence ▸ percentage_bounds s.confidence, h.riskScore ▸ hbounds⟩, ?_⟩
  rw [h.riskScore, isSureSignal, decide_eq_true_iff, h.confidence]
  exact (not_congr hlt).trans not_not

theorem escalation_bounded (id : String) (p : RiskProfile Float) (b : Bundle Float) :
    (escalation id p b).Bounded where
  confidence := (by decide : (0 : Int) ≤ 95 ∧ (95 : Int) ≤ 100)
  riskScore := by
    show 0.0 ≤ (100.0 : Float) ∧ (100.0 : Float) ≤ 100.0
    decide +kernel

end

end Finding

/-! ## the findings of a scan -/

section
variable {b : Bundle Float} {ps : List (Pattern Float)} {ds : List (Detector Float (Hub Float))}
  {as : List (Option (Answer Float))} {rules signals summary : List (Finding Float)}

theorem Expected.rules_bounded (h : Expected b ps ds as rules signals summary)
    (hps : ∀ p ∈ ps, 0 ≤ p.confidence ∧ p.confidence ≤ 100) :
    ∀ f ∈ rules, f.Bounded ∧ (¬ f.riskScore < 100.0 ↔ f.isSureRule = true) := by
  intro f hf
  obtain ⟨id, m, hfinding, hm⟩ := h.of_mem_rules hf
  exact hfinding.bounded (hps _ hm)

theorem Expected.signals_bounded (h : Expected b ps ds as rules signals summary)
    (hds : ∀ d ∈ ds, 0.0 ≤ d.riskScale ∧ d.riskScale ≤ 1.0) :
    List.Forall₂ (fun c f => f.Bounded ∧ (¬ f.riskScore < 100.0 ↔ Finding.isSureSignal (c, f) = true))
      (contributions ds as) signals := by
  have hscales := (List.forall₂_and_left (contributions ds as) signals).mpr
    ⟨fun c hc => hds c.1 (mem_of_mem_contributions hc), h.ofSignals⟩
  exact hscales.imp fun c f ⟨hc, id, hid⟩ => (Finding.ofSignal_eq_ok_iff.mp hid).bounded hc

/-- a property of both members selects the same places -/
theorem filter_eq_zip_filter {β γ : Type} {xs : List β} {ys : List γ} {p : γ → Bool} {q : β × γ → Bool}
    (h : List.Forall₂ (fun x y => p y = q (x, y)) xs ys) :
    ys.filter p = ((xs.zip ys).filter q).map Prod.snd := by
  induction h with
  | nil => rfl
  | @cons x y xs ys hpq _ ih =>
    rw [List.zip_cons_cons, List.filter_cons, List.filter_cons, hpq, ih]
    split <;> rfl

theorem Expected.bounded (h : Expected b ps ds as rules signals summary)
    (hps : ∀ p ∈ ps, 0 ≤ p.confidence ∧ p.confidence ≤ 100)
    (hds : ∀ d ∈ ds, 0.0 ≤ d.riskScale ∧ d.riskScale ≤ 1.0) :
    ∀ f ∈ rules ++ signals ++ summary, f.Bounded :=
  h.forall_mem (fun hf hm => (hf.bounded (hps _ hm)).1)
    (fun hf hc => (hf.bounded (hds _ (mem_of_mem_contributions hc))).1)
    (fun id => Finding.escalation_bounded id _ b)

/-- the findings with a risk score of a hundred are those of sure rules and of sure signals -/
theorem Expected.filter_top (h : Expected b ps ds as rules signals summary)
    (hps : ∀ p ∈ ps, 0 ≤ p.confidence ∧ p.confidence ≤ 100)
    (hds : ∀ d ∈ ds, 0.0 ≤ d.riskScale ∧ d.riskScale ≤ 1.0) :
    ((rules ++ signals).filter fun f => ¬ f.riskScore < 100.0) = rules.filter Finding.isSureRule ++
      (((contributions ds as).zip signals).filter Finding.isSureSignal).map Prod.snd := by
  rw [List.filter_append]
  congr 1
  · refine List.filter_congr fun f hf => ?_
    rw [Bool.eq_iff_iff, decide_eq_true_iff]
    exact (h.rules_bounded hps f hf).2
  · refine filter_eq_zip_filter ((h.signals_bounded hds).imp fun c f hcase => ?_)
    rw [Bool.eq_iff_iff, decide_eq_true_iff]
    exact hcase.2

theorem Expected.filter_rules (h : Expected b ps ds as rules signals summary)
    (hps : ∀ p ∈ ps, ¬ (p.severity = .critical ∧ p.confidence = 100)) :
    rules.filter Finding.isSureRule = [] := by
  refine List.filter_eq_nil_iff.mpr fun f hf hsure => ?_
  obtain ⟨id, m, hfinding, hm⟩ := h.of_mem_rules hf
  rw [Finding.isSureRule, decide_eq_true_iff, hfinding.severity, hfinding.confidence] at hsure
  exact hps _ hm hsure

theorem filter_signals (hds : ∀ d ∈ ds, (d.riskScale == 1.0) = false) (fs : List (Finding Float)) :
    ((contributions ds as).zip fs).filter Finding.isSureSignal = [] := by
  refine List.filter_eq_nil_iff.mpr fun x hx hsure => ?_
  rw [Finding.isSureSignal, decide_eq_true_iff,
    hds _ (mem_of_mem_contributions (List.of_mem_zip hx).1)] at hsure
  exact nomatch hsure.2

end

/-- in a report that is escalated, only findings with a risk score of a hundred stand before the one of the
escalation -/
theorem Completes.before_escalation {timeout : Float} {ds : List (Detector Float (Hub Float))}
    {b : Bundle Float} {h polled : Hub Float} {as : List (Option (Answer Float))}
    {fs extra : List (Finding Float)} {r : Report Float}
    (hc : Completes timeout ds b h as polled fs extra r) (hr : h.registry.Reachable)
    (hbounded : ∀ f ∈ fs ++ extra, f.Bounded) (hescalated : r.escalated = true) :
    ∃ top after, extra = [top] ∧ top.patternId = Finding.escalationId ∧
      r.findings = (fs.filter fun f => ¬ f.riskScore < 100.0) ++ top :: after := by
  rcases hc.summary with ⟨_, id, rfl⟩ | ⟨hcalm, _⟩
  · have hranking := Finding.rank_isRanking (orders_level fun f hf =>
      (Double.isNaN_of_le (hbounded f hf).riskScore.1).2)
    rw [← hc.findings] at hranking
    have hscore : (Finding.escalation id (.ofFindings fs) b).riskScore = 100.0 := rfl
    have htop : ∀ f ∈ fs ++ [Finding.escalation id (.ofFindings fs) b],
        ¬ (Finding.escalation id (.ofFindings fs) b).riskScore < f.riskScore := fun f hf =>
      hscore ▸ Double.not_lt_of_le (hbounded f hf).riskScore.2
    obtain ⟨after, hafter⟩ := hranking.before_last (fun hmem => hc.patternId_ne hr _ hmem rfl)
      (fun f hf => htop f (List.mem_append_left _ hf))
      (htop _ (List.mem_append_right fs (List.mem_singleton_self _)))
    exact ⟨_, after, rfl, rfl, hscore ▸ hafter⟩
  · rw [hc.escalated, hc.risk, hcalm] at hescalated
    exact nomatch hescalated

/-- one of the detectors that are there by default, whatever builds are known to it -/
def Detector.IsStandard {σ : Type} (d : Detector Float σ) : Prop :=
  (∃ known, d = Bytecode.detector known) ∨ d = Social.detector ∨ d = Trading.detector

/-- standard detectors never count in full -/
theorem Detector.IsStandard.scale {σ : Type} {d : Detector Float σ} (h : d.IsStandard) :
    (d.riskScale == 1.0) = false := by
  have hscale : d.riskScale = 0.60 ∨ d.riskScale = 0.70 ∨ d.riskScale = 0.65 := by
    rcases h with ⟨known, rfl⟩ | rfl | rfl
    · exact .inl rfl
    · exact .inr (.inl rfl)
    · exact .inr (.inr rfl)
  rcases hscale with h | h | h <;> rw [h] <;> decide +kernel

theorem Catalog.not_sure : ∀ p ∈ (Catalog.patterns : List (Pattern Float)),
    ¬ (p.severity = .critical ∧ p.confidence = 100) := by
  decide +kernel

/-- **What stands before an escalation.** In every report the numbers of all findings are in their ranges.
If the report is escalated, its findings start with those of the sure rules and of the sure signals, in this
order, and the one of the escalation is next. With the catalog and standard detectors it is the first. -/
theorem scanSubject_foremost (e : Engine Float) (s : Subject Float) (r : Report Float)
    (hr : e.hub.registry.Reachable) (hds : ∀ d ∈ e.detectors, 0.0 ≤ d.riskScale ∧ d.riskScale ≤ 1.0)
    (hs : (e.scanSubject s).1 = .ok r) :
    (∀ f ∈ r.findings, f.Bounded) ∧
    ∃ b as polled rules signals summary, s.bundle? = .ok b ∧
      Poll e.timeout b e.detectors (e.hub.started b) as polled ∧
      Expected b e.hub.registry.patterns e.detectors as rules signals summary ∧
      r.findings.Perm (rules ++ signals ++ summary) ∧
      (∀ f ∈ rules ++ signals, f.patternId ≠ Finding.escalationId) ∧
      (r.escalated = true → ∃ top after, summary = [top] ∧ top.patternId = Finding.escalationId ∧
        r.findings = rules.filter Finding.isSureRule ++
          (((contributions e.detectors as).zip signals).filter Finding.isSureSignal).map Prod.snd ++
          top :: after ∧
        (e.hub.registry.patterns = Catalog.patterns → (∀ d ∈ e.detectors, d.IsStandard) →
          r.findings = top :: after)) := by
  obtain ⟨b, hbundle, hb⟩ := Engine.scanSubject_eq_ok hs
  obtain ⟨as, polled, fs, extra, hc⟩ := scanBundle_completes hb
  have hnew := hc.patternId_ne hr
  obtain ⟨rules, signals, rfl, he⟩ := hc.expected
  have hps : ∀ p ∈ e.hub.registry.patterns, 0 ≤ p.confidence ∧ p.confidence ≤ 100 := fun p hp =>
    (hr.defined p hp).choose_spec.confidence_bounds
  have hbounded := he.bounded hps hds
  refine ⟨fun f hf => hbounded f (hc.findings_perm.subset hf), b, as, polled, rules, signals, extra,
    hbundle, hc.poll, he, hc.findings_perm, hnew, fun hescalated => ?_⟩
  obtain ⟨top, after, hextra, hid, hfindings⟩ := hc.before_escalation hr hbounded hescalated
  rw [he.filter_top hps hds] at hfindings
  refine ⟨top, after, hextra, hid, hfindings, fun hcatalog hstandard => ?_⟩
  rw [hfindings, he.filter_rules (hcatalog ▸ Catalog.not_sure),
    filter_signals (fun d hd => (hstandard d hd).scale) signals]
  rfl

/-- two critical patterns, the second one made certain by an update, and two detectors that are certain of a
critical mistake, the second one at half the scale -/
def certainEngine : Engine Float :=
  let r : Registry Float := ⟨Sample.patterns [("A", .critical, fun _ => .ok (.holds true)),
    ("B", .critical, fun _ => .ok (.holds true))]⟩
  Sample.engine (r.call (.update "B" ⟨[("confidence", .int 100)], none⟩)).2.patterns
    [Sample.detector "full" 0.5 1.0 (.signal ⟨1.0, [], some .critical, []⟩),
      Sample.detector "half" 0.5 0.5 (.signal ⟨1.0, [], some .critical, []⟩)]

theorem certainEngine_reachable : certainEngine.hub.registry.Reachable :=
  (Sample.reachable_patterns _ (by decide) (by decide +kernel)).call _

theorem scanSubject_foremost_certain :
    ∃ r, (certainEngine.scanSubject (.bundle Sample.bundle)).1 = .ok r ∧ r.escalated = true ∧
      (∀ f ∈ r.findings, f.Bounded) ∧
      ∃ f sure top after, r.findings = f :: sure ++ top :: after ∧ f.patternId = "B" ∧
        top.patternId = "META001" := by
  have hds : ∀ d ∈ certainEngine.detectors, 0.0 ≤ d.riskScale ∧ d.riskScale ≤ 1.0 := by decide +kernel
  have hany : (certainEngine.scanSubject (.bundle Sample.bundle)).1.toOption.any (·.escalated) = true := by
    decide +kernel
  obtain ⟨r, hs, hescalated⟩ := exists_ok_of_any hany
  obtain ⟨hbounded, b, _, _, rules, signals, _, hb, _, he, _, _, hfirst⟩ :=
    scanSubject_foremost certainEngine (.bundle Sample.bundle) r certainEngine_reachable hds hs
  obtain ⟨top, after, _, hid, hfindings, _⟩ := hfirst hescalated
  cases hb
  have hpatterns : (certainEngine.hub.registry.patterns.filterMap (Pattern.match? Sample.bundle)).map
      (fun m => (m.pattern.id, m.pattern.severity, m.pattern.confidence)) =
        [("A", .critical, 80), ("B", .critical, 100)] := by decide +kernel
  have hmatches := he.ofMatches
  generalize certainEngine.hub.registry.patterns.filterMap (Pattern.match? Sample.bundle) = ms
    at hpatterns hmatches
  obtain ⟨m, ms, rfl, hm, hms⟩ := List.map_eq_cons_iff.mp hpatterns
  obtain ⟨n, _, rfl, hn, hnil⟩ := List.map_eq_cons_iff.mp hms
  obtain rfl := List.map_eq_nil_iff.mp hnil
  simp only [Prod.mk.injEq] at hm hn
  rcases hmatches with _ | @⟨_, f, _, _, ⟨_, hf⟩, _ | @⟨_, g, _, _, ⟨_, hg⟩, _ | _⟩⟩
  have hf := Finding.ofMatch_eq_ok_iff.mp hf
  have hg := Finding.ofMatch_eq_ok_iff.mp hg
  have hrules : [f, g].filter Finding.isSureRule = [g] := by
    simp [Finding.isSureRule, hf.confidence, hm, hg.severity, hg.confidence, hn]
  rw [hrules] at hfindings
  exact ⟨r, hs, hescalated, hbounded, g, _, top, after, hfindings, hg.patternId.trans hn.1, hid⟩

end ContractRisk
