import ContractRisk.Proofs.Finding.Ranking
import ContractRisk.Proofs.Number.Double
import ContractRisk.Proofs.Registry.Reachable
import ContractRisk.Proofs.Scan.Course

/-!
# The findings of a scan

`Expected` are the findings before they are ranked: one for each match in the order of registration, one
for each signal above its threshold in the order of the detectors, and the one of an escalation.

* `scanBundle_findings`   on doubles, a report of a reachable registry holds the stable descending order
  of the expected findings and nothing else, lists what was left out in order, and accounts for every
  pattern exactly once.

Two facts carry it: no expected finding has NaN for its risk score (`Expected.isNaN_riskScore`), so the
scores are linearly ordered; and no pattern has an identifier that findings of detectors or of an
escalation use (`isReserved_patternId`, `isReserved_escalationId`).
-/

namespace ContractRisk

/-! ## reserved identifiers -/

theorem isReserved_of_mark {mark : String} (h : mark ∈ [detectorMark, escalationMark]) (s : String) :
    isReserved (mark ++ s) = true := by
  unfold isReserved
  rw [List.any_eq_true]
  refine ⟨mark, h, ?_⟩
  rw [List.isPrefixOf_iff_prefix, String.toList_append]
  exact List.prefix_append _ _

theorem isReserved_patternId {α σ : Type} [Scalar α] (d : Detector α σ) :
    isReserved d.patternId = true := isReserved_of_mark List.mem_cons_self d.id

theorem isReserved_escalationId : isReserved Finding.escalationId = true := by decide

/-! ## lists side by side -/

section
variable {β γ : Type} {R : β → γ → Prop}

theorem forall₂_append_left {xs ys : List β} {zs : List γ} (h : List.Forall₂ R (xs ++ ys) zs) :
    ∃ us vs, zs = us ++ vs ∧ List.Forall₂ R xs us ∧ List.Forall₂ R ys vs := by
  have hxs := List.forall₂_take xs.length h
  have hys := List.forall₂_drop xs.length h
  rw [List.take_left] at hxs
  rw [List.drop_left] at hys
  exact ⟨_, _, (List.take_append_drop _ _).symm, hxs, hys⟩

theorem forall₂_exists_left {xs : List β} {ys : List γ} (h : List.Forall₂ R xs ys) {y : γ}
    (hy : y ∈ ys) : ∃ x ∈ xs, R x y := by
  induction h with
  | nil => exact nomatch hy
  | cons hr _ ih =>
    rcases List.mem_cons.mp hy with rfl | hy
    · exact ⟨_, List.mem_cons_self, hr⟩
    · obtain ⟨x, hx, hxy⟩ := ih hy
      exact ⟨x, List.mem_cons_of_mem _ hx, hxy⟩

end

section
variable {α : Type} [Scalar α]

/-! ## the parts of the findings -/

/-- the findings of the matches go by the identifiers of the patterns that hold -/
theorem patternId_of_ofMatch {b : Bundle α} {ps : List (Pattern α)} {rules : List (Finding α)}
    (h : List.Forall₂ (fun m f => ∃ id, Finding.ofMatch id m b = .ok f)
      (ps.filterMap (Pattern.match? b)) rules) :
    rules.map (·.patternId) = (ps.filter (Pattern.holds b)).map (·.id) := by
  have hids : List.Forall₂ (fun m f => m.pattern.id = f.patternId)
      (ps.filterMap (Pattern.match? b)) rules :=
    h.imp fun m f ⟨id, hf⟩ => (Finding.ofMatch_eq_ok_iff.mp hf).patternId.symm
  rw [← matchedIds]
  refine Eq.symm ?_
  rw [← List.forall₂_eq_eq_eq, List.forall₂_map_left_iff, List.forall₂_map_right_iff]
  exact hids

/-- the findings of a scan before they are ranked -/
structure Expected (b : Bundle α) (ps : List (Pattern α)) (ds : List (Detector α (Hub α)))
    (as : List (Option (Answer α))) (rules signals summary : List (Finding α)) : Prop where
  ofMatches : List.Forall₂ (fun m f => ∃ id, Finding.ofMatch id m b = .ok f)
    (ps.filterMap (Pattern.match? b)) rules
  ofSignals : List.Forall₂ (fun c f => ∃ id, Finding.ofSignal id c.1 c.2 b = .ok f)
    (contributions ds as) signals
  ofProfile : ((90.0 : α) < (RiskProfile.ofFindings (rules ++ signals)).score ∧
      ∃ id, summary = [Finding.escalation id (.ofFindings (rules ++ signals)) b]) ∨
    (¬ (90.0 : α) < (RiskProfile.ofFindings (rules ++ signals)).score ∧ summary = [])

theorem Completes.expected {timeout : α} {ds : List (Detector α (Hub α))} {b : Bundle α} {h : Hub α}
    {as : List (Option (Answer α))} {polled : Hub α} {fs extra : List (Finding α)} {r : Report α}
    (hc : Completes timeout ds b h as polled fs extra r) :
    ∃ rules signals, fs = rules ++ signals ∧
      Expected b h.registry.patterns ds as rules signals extra := by
  obtain ⟨rules, signals, rfl, hrules, hsignals⟩ := forall₂_append_left hc.made
  rw [List.forall₂_map_left_iff] at hrules hsignals
  refine ⟨rules, signals, rfl, hrules, hsignals, ?_⟩
  rcases hc.summary with ⟨hp, hextra⟩ | ⟨hp, hextra⟩
  · exact .inl ⟨of_decide_eq_true hp, hextra⟩
  · exact .inr ⟨of_decide_eq_false hp, hextra⟩

theorem Completes.findings_perm {timeout : α} {ds : List (Detector α (Hub α))} {b : Bundle α}
    {h : Hub α} {as : List (Option (Answer α))} {polled : Hub α} {fs extra : List (Finding α)}
    {r : Report α} (hc : Completes timeout ds b h as polled fs extra r) :
    r.findings.Perm (fs ++ extra) := by
  rw [hc.findings]
  exact Finding.rank_perm _

namespace Expected

variable {b : Bundle α} {ps : List (Pattern α)} {ds : List (Detector α (Hub α))}
  {as : List (Option (Answer α))} {rules signals summary : List (Finding α)}

theorem rules_patternId (h : Expected b ps ds as rules signals summary) :
    rules.map (·.patternId) = (ps.filter (Pattern.holds b)).map (·.id) :=
  patternId_of_ofMatch h.ofMatches

/-- a finding of a rule is that of a match -/
theorem of_mem_rules (h : Expected b ps ds as rules signals summary) {f : Finding α}
    (hf : f ∈ rules) : ∃ id m, Finding.MatchFinding id m b f ∧ m.pattern ∈ ps := by
  obtain ⟨m, hm, id, hid⟩ := forall₂_exists_left h.ofMatches hf
  obtain ⟨p, hp, hmatch⟩ := List.mem_filterMap.mp hm
  obtain rfl := Pattern.match?_pattern hmatch
  exact ⟨id, m, Finding.ofMatch_eq_ok_iff.mp hid, hp⟩

theorem of_mem_signals (h : Expected b ps ds as rules signals summary) {f : Finding α}
    (hf : f ∈ signals) : ∃ id c, Finding.SignalFinding id c.1 c.2 b f ∧ c ∈ contributions ds as := by
  obtain ⟨c, hc, id, hid⟩ := forall₂_exists_left h.ofSignals hf
  exact ⟨id, c, Finding.ofSignal_eq_ok_iff.mp hid, hc⟩

/-- what is said of all expected findings is said of those of matches, of signals and of escalations -/
theorem forall_mem (h : Expected b ps ds as rules signals summary) {P : Finding α → Prop}
    (hmatch : ∀ {id m f}, Finding.MatchFinding id m b f → m.pattern ∈ ps → P f)
    (hsignal : ∀ {id c f}, Finding.SignalFinding id c.1 c.2 b f → c ∈ contributions ds as → P f)
    (hescalation : ∀ id, P (Finding.escalation id (.ofFindings (rules ++ signals)) b)) :
    ∀ f ∈ rules ++ signals ++ summary, P f := by
  intro f hf
  rcases List.mem_append.mp hf with hf | hf
  · rcases List.mem_append.mp hf with hf | hf
    · obtain ⟨id, m, hfinding, hm⟩ := h.of_mem_rules hf
      exact hmatch hfinding hm
    · obtain ⟨id, c, hfinding, hc⟩ := h.of_mem_signals hf
      exact hsignal hfinding hc
  · rcases h.ofProfile with ⟨_, id, rfl⟩ | ⟨_, rfl⟩
    · rw [List.mem_singleton.mp hf]
      exact hescalation id
    · exact nomatch hf

theorem signals_isReserved (h : Expected b ps ds as rules signals summary) :
    ∀ f ∈ signals, isReserved f.patternId = true := by
  intro f hf
  obtain ⟨id, c, hfinding, _⟩ := h.of_mem_signals hf
  rw [hfinding.patternId]
  exact isReserved_patternId c.1

theorem summary_isReserved (h : Expected b ps ds as rules signals summary) :
    ∀ f ∈ summary, isReserved f.patternId = true := by
  rcases h.ofProfile with ⟨_, id, rfl⟩ | ⟨_, rfl⟩
  · intro f hf
    rw [List.mem_singleton.mp hf]
    exact isReserved_escalationId
  · exact fun f hf => (nomatch hf)

end Expected

/-! ## every pattern once -/

/-- how a pattern comes up in a report: in one finding if its condition holds, in one place among the
skipped ones if it breaks, and not at all if it passes -/
structure Accounted (b : Bundle α) (r : Report α) (p : Pattern α) : Prop where
  findings : (r.findings.map (·.patternId)).count p.id = if p.holds b then 1 else 0
  skipped : r.skippedPatterns.count p.id = if p.breaks b then 1 else 0
  one : (p.holds b = true ∧ p.breaks b = false ∧ ¬ p.passes b) ∨
    (p.holds b = false ∧ p.breaks b = true ∧ ¬ p.passes b) ∨
    (p.holds b = false ∧ p.breaks b = false ∧ p.passes b)

omit [Scalar α] in
theorem count_filter_ids {ps : List (Pattern α)} (h : (ps.map (·.id)).Nodup) (q : Pattern α → Bool)
    {p : Pattern α} (hp : p ∈ ps) :
    ((ps.filter q).map (·.id)).count p.id = if q p then 1 else 0 := by
  have hnodup : ((ps.filter q).map (·.id)).Nodup := h.sublist (List.filter_sublist.map _)
  by_cases hq : q p = true
  · rw [if_pos hq]
    exact List.count_eq_one_of_mem hnodup (List.mem_map.mpr ⟨p, List.mem_filter.mpr ⟨hp, hq⟩, rfl⟩)
  · rw [if_neg hq]
    refine List.count_eq_zero.mpr fun hmem => ?_
    obtain ⟨p', hp', hid⟩ := List.mem_map.mp hmem
    obtain ⟨hmem', hq'⟩ := List.mem_filter.mp hp'
    exact hq (List.inj_on_of_nodup_map h hmem' hp hid ▸ hq')

omit [Scalar α] in
theorem count_reserved {p : Pattern α} (hp : isReserved p.id = false) {fs : List (Finding α)}
    (h : ∀ f ∈ fs, isReserved f.patternId = true) : (fs.map (·.patternId)).count p.id = 0 := by
  refine List.count_eq_zero.mpr fun hmem => ?_
  obtain ⟨f, hf, hid⟩ := List.mem_map.mp hmem
  have hr := h f hf
  rw [hid, hp] at hr
  exact nomatch hr

theorem Completes.accounted {timeout : α} {ds : List (Detector α (Hub α))} {b : Bundle α} {h : Hub α}
    {as : List (Option (Answer α))} {polled : Hub α} {fs extra : List (Finding α)} {r : Report α}
    (hc : Completes timeout ds b h as polled fs extra r) (hr : h.registry.Reachable)
    {p : Pattern α} (hp : p ∈ h.registry.patterns) : Accounted b r p where
  findings := by
    obtain ⟨rules, signals, rfl, he⟩ := hc.expected
    obtain ⟨d, hd⟩ := hr.defined p hp
    rw [(hc.findings_perm.map _).count_eq, List.map_append, List.map_append, List.count_append,
      List.count_append, count_reserved hd.not_isReserved he.signals_isReserved,
      count_reserved hd.not_isReserved he.summary_isReserved, he.rules_patternId]
    exact count_filter_ids hr.nodup_ids (Pattern.holds b) hp
  skipped := by
    rw [hc.skipped]
    exact count_filter_ids hr.nodup_ids (Pattern.breaks b) hp
  one := Pattern.outcome_cases b p

end

/-! ## scores on doubles -/

section
variable {b : Bundle Float} {ps : List (Pattern Float)} {ds : List (Detector Float (Hub Float))}
  {as : List (Option (Answer Float))} {rules signals summary : List (Finding Float)}

theorem Expected.isNaN_riskScore (h : Expected b ps ds as rules signals summary)
    (hps : ∀ p ∈ ps, 0 ≤ p.confidence ∧ p.confidence ≤ 100)
    (hds : ∀ d ∈ ds, d.riskScale.isFinite = true) :
    ∀ f ∈ rules ++ signals ++ summary, f.riskScore.isNaN = false := by
  refine h.forall_mem (fun hf hm => ?_) (fun hf hc => ?_) (fun _ => ?_)
  · rw [hf.riskScore]
    exact Double.isNaN_ruleRisk (hps _ hm).1 (hps _ hm).2 _
  · rw [hf.riskScore]
    exact Double.isNaN_scaled _ (hds _ (mem_of_mem_contributions hc))
  · show (100.0 : Float).isNaN = false
    decide +kernel

theorem Completes.isNaN_riskScore {timeout : Float} {h polled : Hub Float}
    {fs extra : List (Finding Float)} {r : Report Float}
    (hc : Completes timeout ds b h as polled fs extra r) (hr : h.registry.Reachable)
    (hds : ∀ d ∈ ds, d.riskScale.isFinite = true) :
    ∀ f ∈ fs ++ extra, f.riskScore.isNaN = false := by
  obtain ⟨rules, signals, rfl, he⟩ := hc.expected
  refine he.isNaN_riskScore (fun p hp => ?_) hds
  obtain ⟨d, hd⟩ := hr.defined p hp
  exact hd.confidence_bounds

/-- away from NaN the scores of findings are ordered like their levels -/
theorem orders_level {fs : List (Finding Float)} (h : ∀ f ∈ fs, f.riskScore.isNaN = false) :
    Finding.Orders Double.level fs :=
  fun f hf g hg => Double.lt_iff_level (h f hf) (h g hg)

end

/-! ## the findings of a scan -/

/-- **What a report holds.** The findings are the only list that ranks the expected ones. -/
theorem scanBundle_findings (e : Engine Float) (b : Bundle Float) (r : Report Float)
    (hr : e.hub.registry.Reachable) (hds : ∀ d ∈ e.detectors, d.riskScale.isFinite = true)
    (hs : (e.scanBundle b).1 = .ok r) :
    ∃ as polled rules signals summary,
      Poll e.timeout b e.detectors (e.hub.started b) as polled ∧
      Expected b e.hub.registry.patterns e.detectors as rules signals summary ∧
      Finding.IsRanking (rules ++ signals ++ summary) r.findings ∧
      (∀ out, Finding.IsRanking (rules ++ signals ++ summary) out → out = r.findings) ∧
      r.skippedPatterns = (e.hub.registry.patterns.filter (Pattern.breaks b)).map (·.id) ∧
      r.failedDetectors = failures e.detectors as ∧
      ∀ p ∈ e.hub.registry.patterns, Accounted b r p := by
  obtain ⟨as, polled, fs, extra, hc⟩ := scanBundle_completes hs
  have horders := orders_level (hc.isNaN_riskScore hr hds)
  have hranking := Finding.rank_isRanking horders
  rw [← hc.findings] at hranking
  obtain ⟨rules, signals, rfl, he⟩ := hc.expected
  exact ⟨as, polled, rules, signals, extra, hc.poll, he, hranking,
    fun out hout => hout.unique horders hranking, hc.skipped, hc.failed,
    fun p hp => hc.accounted hr hp⟩

/-- a pattern that matches, one that breaks and one that passes; a detector that fails and one that is
sure -/
def mixedEngine : Engine Float :=
  Sample.engine
    (Sample.patterns [("HIT", .high, fun _ => .ok (.holds true)),
      ("BROKEN", .low, fun _ => .error (.noText .tooDeep)), ("MISS", .low, fun _ => .ok (.holds false))])
    [Sample.detector "down" 0.5 1.0 (.failed (.noText .tooDeep)),
      Sample.detector "sure" 0.5 1.0 (.signal ⟨0.75, [], none, []⟩)]

theorem mixedEngine_reachable : mixedEngine.hub.registry.Reachable :=
  Sample.reachable_patterns _ (by decide) (by decide +kernel)

theorem scanBundle_findings_mixed :
    ∃ r, (mixedEngine.scanBundle Sample.bundle).1 = .ok r ∧ r.skippedPatterns = ["BROKEN"] ∧
      ∃ as rules signals summary, r.failedDetectors = failures mixedEngine.detectors as ∧
        rules.length = 1 ∧ Finding.IsRanking (rules ++ signals ++ summary) r.findings := by
  have hds : ∀ d ∈ mixedEngine.detectors, d.riskScale.isFinite = true := by
    decide +kernel
  have hok : (mixedEngine.scanBundle Sample.bundle).1.isOk = true := by decide +kernel
  obtain ⟨r, hs⟩ := exists_eq_ok hok
  obtain ⟨as, polled, rules, signals, summary, _, he, hranking, _, hskipped, hfailed, _⟩ :=
    scanBundle_findings mixedEngine Sample.bundle r mixedEngine_reachable hds hs
  exact ⟨r, hs, hskipped, as, rules, signals, summary, hfailed, he.ofMatches.length_eq.symm,
    hranking⟩

end ContractRisk
