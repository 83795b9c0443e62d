import ContractRisk.Proofs.Finding.Content
import ContractRisk.Proofs.Scan.Findings

/-!
# What failed makes no difference

A scan is compared with one of the same bundle without the patterns that were skipped and without the
detectors that failed (`Reduced`). If the detectors give the same reply in every state, both scans follow
the same leads: a pattern that breaks gives no match (`filterMap_match?_reduced`), and a detector that
fails contributes nothing and changes no reply of another one (`Poll.again`).

* `scanBundle_isolation`   the second scan is completed with the same findings in the same order, up to
  their identifiers, with the same profile, and with nothing skipped or failed.
-/

namespace ContractRisk

section
variable {α : Type}

/-! ## without what failed -/

/-- the reply does not depend on the state that the detectors share -/
def Detector.Steady (b : Bundle α) (d : Detector α (Hub α)) : Prop :=
  ∀ h h', (d.analyze b h).1 = (d.analyze b h').1

/-- the detectors at the places of a poll where nothing failed -/
def survivors (ds : List (Detector α (Hub α))) (as : List (Option (Answer α))) :
    List (Detector α (Hub α)) :=
  ((ds.zip as).filter fun a => (failure? a).isNone).map Prod.fst

variable [Scalar α]

/-- `e'` is `e` without the patterns that a report says were skipped and without the detectors that
failed in a poll; all else that scans share may differ -/
structure Reduced (e e' : Engine α) (r : Report α) (as : List (Option (Answer α))) : Prop where
  timeout : e'.timeout = e.timeout
  patterns : e'.hub.registry.patterns =
    e.hub.registry.patterns.filter fun p => p.id ∉ r.skippedPatterns
  detectors : e'.detectors = survivors e.detectors as

theorem Engine.scanBundle_timeout (e : Engine α) (b : Bundle α) :
    (e.scanBundle b).2.timeout = e.timeout := rfl

theorem Engine.scanBundle_detectors (e : Engine α) (b : Bundle α) :
    (e.scanBundle b).2.detectors = e.detectors := rfl

/-! ## patterns -/

theorem filterMap_match?_reduced (ps : List (Pattern α)) (b : Bundle α) :
    (ps.filter fun p => !p.breaks b).filterMap (Pattern.match? b) =
      ps.filterMap (Pattern.match? b) := by
  induction ps with
  | nil => rfl
  | cons p ps ih =>
    rw [List.filter_cons]
    cases hp : p.breaks b with
    | false =>
      rw [Bool.not_false, if_pos rfl, filterMap_cons_toList, filterMap_cons_toList, ih]
    | true =>
      have hnone : p.match? b = none := by
        rcases Pattern.outcome_cases b p with ⟨_, h, _⟩ | ⟨h, _, _⟩ | ⟨_, h, _⟩
        · rw [hp] at h; exact nomatch h
        · exact Option.isNone_iff_eq_none.mp (Option.isSome_eq_false_iff.mp h)
        · rw [hp] at h; exact nomatch h
      rw [Bool.not_true, if_neg Bool.false_ne_true, ih, List.filterMap_cons_none hnone]

/-- in a reachable registry the skipped identifiers are those of the patterns that break, and of no
others -/
theorem filter_skipped {r : Registry α} (hr : r.Reachable) {b : Bundle α} {ids : List String}
    (hids : ids = (r.patterns.filter (Pattern.breaks b)).map (·.id)) :
    (r.patterns.filter fun p => p.id ∉ ids) = r.patterns.filter fun p => !p.breaks b := by
  refine List.filter_congr fun p hp => ?_
  have hmem : p.id ∈ ids ↔ p.breaks b = true := by
    rw [hids, List.mem_map]
    constructor
    · rintro ⟨p', hp', hid⟩
      obtain ⟨hmem', hbreaks⟩ := List.mem_filter.mp hp'
      exact List.inj_on_of_nodup_map hr.nodup_ids hmem' hp hid ▸ hbreaks
    · intro hbreaks
      exact ⟨p, List.mem_filter.mpr ⟨hp, hbreaks⟩, rfl⟩
  cases hb : p.breaks b with
  | false => simpa [hb] using hmem
  | true => simpa [hb] using hmem

/-! ## detectors -/

section
variable {timeout : α} {b : Bundle α}

theorem Response.eq_of_steady {d : Detector α (Hub α)} {h h' k k' : Hub α} {a a' : Option (Answer α)}
    (hd : d.Steady b) (hr : Response timeout b d h a h') (hr' : Response timeout b d k a' k') :
    a = a' := by
  have hask : (ask timeout b d h).1 = (ask timeout b d k).1 := by
    unfold ask
    cases d.applies b with
    | error f => rfl
    | ok applies =>
      cases applies with
      | false => rfl
      | true =>
        dsimp only
        split
        · rfl
        · exact congrArg (fun r => some (Answer.reply r)) (hd h k)
  rw [hr.eq_ask, hr'.eq_ask] at hask
  exact hask

/-- a detector that fails does not contribute -/
theorem contribution?_of_failure {a : Detector α (Hub α) × Option (Answer α)} {id : String}
    (h : failure? a = some id) : contribution? a = none := by
  obtain ⟨d, _ | f | (s | reason | f | _) | _⟩ := a
  · exact nomatch h
  · rfl
  · exact nomatch h
  · rfl
  · rfl
  · rfl
  · rfl

/-- the detectors that did not fail do the same again when they are polled without the others -/
theorem Poll.again {ds : List (Detector α (Hub α))} {as as' : List (Option (Answer α))}
    {h h' k k' : Hub α} (hp : Poll timeout b ds h as h') (hds : ∀ d ∈ ds, d.Steady b)
    (hp' : Poll timeout b (survivors ds as) k as' k') :
    contributions (survivors ds as) as' = contributions ds as ∧
      failures (survivors ds as) as' = [] := by
  induction hp generalizing as' k k' with
  | nil _ =>
    cases hp'
    exact ⟨rfl, rfl⟩
  | @cons d ds a as h h' h'' hr _ ih =>
    have hds' : ∀ d ∈ ds, d.Steady b := fun d hd => hds d (List.mem_cons_of_mem _ hd)
    unfold survivors at hp' ih ⊢
    unfold contributions failures at ih ⊢
    rw [List.zip_cons_cons, List.filter_cons] at hp' ⊢
    cases ha : failure? (d, a) with
    | some id =>
      rw [ha] at hp'
      obtain ⟨ih1, ih2⟩ := ih hds' hp'
      rw [List.filterMap_cons_none (contribution?_of_failure ha)]
      exact ⟨ih1, ih2⟩
    | none =>
      rw [ha] at hp'
      cases hp' with
      | @cons _ _ a' as' _ k' k'' hr' hrest =>
        obtain rfl := hr.eq_of_steady (hds d List.mem_cons_self) hr'
        obtain ⟨ih1, ih2⟩ := ih hds' hrest
        rw [Option.isNone_none, if_pos rfl, List.map_cons, List.zip_cons_cons,
          filterMap_cons_toList, filterMap_cons_toList, filterMap_cons_toList, ih1, ih2, ha]
        exact ⟨rfl, rfl⟩

end

/-! ## findings -/

theorem Lead.Gives.unnamed_eq {b : Bundle α} {l : Lead α} {f g : Finding α} (hf : l.Gives b f)
    (hg : l.Gives b g) : f.unnamed = g.unnamed := by
  obtain ⟨i, hi⟩ := hf
  obtain ⟨j, hj⟩ := hg
  cases l with
  | rule m => exact Finding.ofMatch_unnamed hi hj
  | signal d s => exact Finding.ofSignal_unnamed hi hj

/-- the findings of the same leads are the same, up to their identifiers -/
theorem unnamed_of_gives {b : Bundle α} {ls : List (Lead α)} {fs gs : List (Finding α)}
    (hf : List.Forall₂ (Lead.Gives b) ls fs) (hg : List.Forall₂ (Lead.Gives b) ls gs) :
    fs.map Finding.unnamed = gs.map Finding.unnamed := by
  induction hf generalizing gs with
  | nil => cases hg; rfl
  | cons hl _ ih =>
    cases hg with
    | cons hl' hg => rw [List.map_cons, List.map_cons, hl.unnamed_eq hl', ih hg]

theorem ofFindings_of_unnamed {fs gs : List (Finding α)}
    (h : fs.map Finding.unnamed = gs.map Finding.unnamed) :
    RiskProfile.ofFindings fs = RiskProfile.ofFindings gs := by
  have hs := congrArg (List.map (·.severity)) h
  rw [List.map_map, List.map_map] at hs
  exact congrArg RiskProfile.ofSeverities hs

theorem IsSummary.unnamed_eq {b : Bundle α} {p : RiskProfile α} {fs gs : List (Finding α)}
    (hf : IsSummary b p fs) (hg : IsSummary b p gs) :
    fs.map Finding.unnamed = gs.map Finding.unnamed := by
  rcases hf with ⟨hp, i, rfl⟩ | ⟨hp, rfl⟩ <;> rcases hg with ⟨hp', j, rfl⟩ | ⟨hp', rfl⟩
  · rfl
  · exact nomatch hp.symm.trans hp'
  · exact nomatch hp.symm.trans hp'
  · rfl

/-! ## both scans -/

section
variable {timeout timeout' : α} {ds ds' : List (Detector α (Hub α))} {b : Bundle α} {h h' : Hub α}
  {as as' : List (Option (Answer α))} {polled polled' : Hub α} {fs extra fs' extra' : List (Finding α)}
  {r r' : Report α}

/-- a scan that follows the leads of a completed one is completed too -/
theorem Completes.follow (hc : Completes timeout ds b h as polled fs extra r)
    (hpoll : Poll timeout' b ds' (h'.started b) as' polled')
    (hleads : scanLeads b h'.registry.patterns ds' as' = scanLeads b h.registry.patterns ds as) :
    ∃ fs' extra' r', (scanWith timeout' ds' b h').1 = .ok r' ∧
      Completes timeout' ds' b h' as' polled' fs' extra' r' ∧
      List.Forall₂ (Lead.Gives b) (scanLeads b h.registry.patterns ds as) fs' := by
  obtain ⟨as₁, polled₁, fs', hpoll₁, hcase⟩ := scanWith_spec timeout' ds' b h'
  obtain ⟨rfl, rfl⟩ := hpoll₁.unique hpoll
  rcases hcase with ⟨r', extra', hok, hc', _⟩ | ⟨problems, _, hgathered, _⟩
  · exact ⟨fs', extra', r', hok, hc', hleads ▸ hc'.made⟩
  · -- every lead is fit, since the first scan was completed
    rw [hleads] at hgathered
    exact nomatch hgathered.isOk_iff.mpr ((Gathered.all hc.made).isOk_iff.mp rfl)

/-- two scans that follow the same leads report the same, up to the identifiers of the findings -/
theorem Completes.unnamed_eq (hc : Completes timeout ds b h as polled fs extra r)
    (hc' : Completes timeout' ds' b h' as' polled' fs' extra' r')
    (hmade : List.Forall₂ (Lead.Gives b) (scanLeads b h.registry.patterns ds as) fs') :
    r.findings.map Finding.unnamed = r'.findings.map Finding.unnamed ∧ r'.risk = r.risk ∧
      r'.escalated = r.escalated := by
  have hfs : fs.map Finding.unnamed = fs'.map Finding.unnamed := unnamed_of_gives hc.made hmade
  have hrisk : RiskProfile.ofFindings fs = RiskProfile.ofFindings fs' := ofFindings_of_unnamed hfs
  have hsummary := hc.summary
  rw [hrisk] at hsummary
  have hextra := hsummary.unnamed_eq hc'.summary
  refine ⟨?_, ?_, ?_⟩
  · rw [hc.findings, hc'.findings, Finding.rank_unnamed, Finding.rank_unnamed, List.map_append,
      List.map_append, hfs, hextra]
  · rw [hc'.risk, hc.risk, hrisk]
  · rw [hc'.escalated, hc.escalated, hc'.risk, hc.risk, hrisk]

end

/-- the second scan follows the same leads, and nothing is skipped or fails in it -/
theorem Completes.again {e e' : Engine α} {b : Bundle α} {as : List (Option (Answer α))}
    {polled : Hub α} {fs extra : List (Finding α)} {r : Report α}
    (hc : Completes e.timeout e.detectors b e.hub as polled fs extra r)
    (hr : e.hub.registry.Reachable) (hsteady : ∀ d ∈ e.detectors, d.Steady b)
    (he : Reduced e e' r as) :
    ∃ as' polled' fs' extra' r', (e'.scanBundle b).1 = .ok r' ∧
      Completes e'.timeout e'.detectors b e'.hub as' polled' fs' extra' r' ∧
      List.Forall₂ (Lead.Gives b) (scanLeads b e.hub.registry.patterns e.detectors as) fs' ∧
      r'.skippedPatterns = [] ∧ r'.failedDetectors = [] := by
  obtain ⟨as', hpoll, _⟩ := askAll_spec e'.timeout b e'.detectors (e'.hub.started b)
  have hps : e'.hub.registry.patterns = e.hub.registry.patterns.filter fun p => !p.breaks b := by
    rw [he.patterns, filter_skipped hr hc.skipped]
  have hpoll' := hpoll
  rw [he.timeout, he.detectors] at hpoll'
  obtain ⟨hcontributions, hfailures⟩ := hc.poll.again hsteady hpoll'
  have hleads : scanLeads b e'.hub.registry.patterns e'.detectors as' =
      scanLeads b e.hub.registry.patterns e.detectors as := by
    unfold scanLeads
    rw [hps, filterMap_match?_reduced, he.detectors, hcontributions]
  obtain ⟨fs', extra', r', hok, hc', hmade⟩ := hc.follow hpoll hleads
  refine ⟨as', _, fs', extra', r', hok, hc', hmade, ?_, ?_⟩
  · rw [hc'.skipped, hps, List.filter_filter]
    simp
  · rw [hc'.failed, he.detectors]
    exact hfailures

end

/-! ## no NaN -/

/-- no NaN in what an engine is made of, nor in what its detectors attach to their signals -/
structure Engine.Clean (e : Engine Float) (b : Bundle Float) : Prop where
  patterns : ∀ p ∈ e.hub.registry.patterns, p.NoNaN
  constants : ∀ d ∈ e.detectors, d.threshold.isNaN = false ∧ d.riskScale.isNaN = false
  metadata : ∀ d ∈ e.detectors, ∀ k s, (d.analyze b k).1 = .signal s →
    ∀ m ∈ s.metadata, m.2.hasNaN = false

theorem Completes.hasNaN_metadata {e : Engine Float} {b : Bundle Float}
    {as : List (Option (Answer Float))} {polled : Hub Float} {fs extra : List (Finding Float)}
    {r : Report Float} (hc : Completes e.timeout e.detectors b e.hub as polled fs extra r)
    (he : e.Clean b) : ∀ f ∈ fs ++ extra, ∀ m ∈ f.metadata, m.2.hasNaN = false := by
  obtain ⟨rules, signals, rfl, hexpected⟩ := hc.expected
  refine hexpected.forall_mem (fun hf hm => hf.hasNaN_metadata (he.patterns _ hm))
    (fun {id c f} hf hmem => ?_) (fun id => Finding.hasNaN_escalation id _ b)
  obtain ⟨hzip, hlt⟩ := mem_contributions hmem
  obtain ⟨k, hk⟩ := hc.poll.exists_analyze hzip
  exact hf.hasNaN_metadata hlt (he.metadata c.1 (List.of_mem_zip hzip).1 k c.2 hk)

/-- findings that agree with those of a scan but for their identifiers have the same content, except
where a risk score is NaN -/
theorem Completes.contents {e : Engine Float} {b : Bundle Float} {as : List (Option (Answer Float))}
    {polled : Hub Float} {fs extra gs : List (Finding Float)} {r : Report Float}
    (hc : Completes e.timeout e.detectors b e.hub as polled fs extra r)
    (hr : e.hub.registry.Reachable) (hclean : e.Clean b)
    (hgs : r.findings.map Finding.unnamed = gs.map Finding.unnamed) :
    List.Forall₂ (fun f g => f.unnamed = g.unnamed ∧
        (f.sameContent g = true ↔ f.riskScore.isNaN = false)) r.findings gs ∧
      ((∀ d ∈ e.detectors, d.riskScale.isFinite = true) →
        List.Forall₂ (fun f g => f.sameContent g = true) r.findings gs) := by
  rw [← List.forall₂_eq_eq_eq, List.forall₂_map_left_iff, List.forall₂_map_right_iff] at hgs
  have hmem : ∀ f ∈ r.findings, f ∈ fs ++ extra := fun f hf => hc.findings_perm.subset hf
  have hmetadata : ∀ f ∈ r.findings, ∀ m ∈ f.metadata, m.2.hasNaN = false :=
    fun f hf => hc.hasNaN_metadata hclean f (hmem f hf)
  have hpairs : List.Forall₂ (fun f g => f.unnamed = g.unnamed ∧
      (f.sameContent g = true ↔ f.riskScore.isNaN = false)) r.findings gs :=
    ((List.forall₂_and_left _ _).mpr ⟨hmetadata, hgs⟩).imp
      fun f g ⟨hm, hfg⟩ => ⟨hfg, Finding.sameContent_iff hfg hm⟩
  refine ⟨hpairs, fun hscales => ?_⟩
  have hnumbers : ∀ f ∈ r.findings, f.riskScore.isNaN = false :=
    fun f hf => hc.isNaN_riskScore hr hscales f (hmem f hf)
  exact ((List.forall₂_and_left _ _).mpr ⟨hnumbers, hpairs⟩).imp
    fun f g ⟨hf, _, hiff⟩ => hiff.mpr hf

/-! ## the law -/

/-- **Isolation of failures.** The findings of both scans agree but for their identifiers, and they have
the same content except where a risk score is NaN, which takes a detector without a finite scale. -/
theorem scanBundle_isolation (e e' : Engine Float) (b : Bundle Float) (r : Report Float)
    (as : List (Option (Answer Float))) (polled : Hub Float)
    (hr : e.hub.registry.Reachable) (hsteady : ∀ d ∈ e.detectors, d.Steady b)
    (hclean : e.Clean b)
    (hs : (e.scanBundle b).1 = .ok r)
    (hpoll : Poll e.timeout b e.detectors (e.hub.started b) as polled)
    (he : Reduced e e' r as) :
    ∃ r', (e'.scanBundle b).1 = .ok r' ∧
      List.Forall₂ (fun f g => f.unnamed = g.unnamed ∧
        (f.sameContent g = true ↔ f.riskScore.isNaN = false)) r.findings r'.findings ∧
      ((∀ d ∈ e.detectors, d.riskScale.isFinite = true) →
        List.Forall₂ (fun f g => f.sameContent g = true) r.findings r'.findings) ∧
      r'.risk = r.risk ∧ r'.escalated = r.escalated ∧ r'.skippedPatterns = [] ∧
      r'.failedDetectors = [] := by
  obtain ⟨as₁, polled₁, fs, extra, hc⟩ := scanBundle_completes hs
  obtain ⟨rfl, rfl⟩ := hpoll.unique hc.poll
  obtain ⟨as', polled', fs', extra', r', hok, hc', hmade, hskipped, hfailed⟩ :=
    hc.again hr hsteady he
  obtain ⟨hfindings, hrisk, hescalated⟩ := hc.unnamed_eq hc' hmade
  obtain ⟨hpairs, hsame⟩ := hc.contents hr hclean hfindings
  exact ⟨r', hok, hpairs, hsame, hrisk, hescalated, hskipped, hfailed⟩

theorem Sample.noNaN_patterns
    (qs : List (String × Severity × (Bundle Float → Except Fault Verdict))) :
    ∀ p ∈ patterns qs, p.NoNaN := by
  intro p hp
  obtain ⟨q, _, rfl⟩ := List.mem_map.mp hp
  exact ⟨Value.hasNaN_int 1, by simp [pattern, Value.hasNaN]⟩

theorem mixedEngine_steady : ∀ d ∈ mixedEngine.detectors, d.Steady Sample.bundle := by
  intro d hd k k'
  rcases hd with _ | ⟨_, _ | ⟨_, hd⟩⟩
  · rfl
  · rfl
  · exact nomatch hd

theorem mixedEngine_clean : mixedEngine.Clean Sample.bundle := by
  refine ⟨Sample.noNaN_patterns _, by decide +kernel, fun d hd k s hs => ?_⟩
  rcases hd with _ | ⟨_, _ | ⟨_, hd⟩⟩
  · exact nomatch hs
  · cases hs
    exact fun m hm => nomatch hm
  · exact nomatch hd

/-- what is left of the mixed engine without its broken pattern and its failing detector -/
def mixedRest : Engine Float :=
  Sample.engine
    (Sample.patterns [("HIT", .high, fun _ => .ok (.holds true)),
      ("MISS", .low, fun _ => .ok (.holds false))])
    [Sample.detector "sure" 0.5 1.0 (.signal ⟨0.75, [], none, []⟩)]

theorem scanBundle_isolation_mixed :
    ∃ r r', (mixedEngine.scanBundle Sample.bundle).1 = .ok r ∧ r.skippedPatterns = ["BROKEN"] ∧
      (mixedRest.scanBundle Sample.bundle).1 = .ok r' ∧ r'.skippedPatterns = [] ∧
      r'.failedDetectors = [] ∧ r'.risk = r.risk ∧
      List.Forall₂ (fun f g => f.sameContent g = true) r.findings r'.findings := by
  have hscales : ∀ d ∈ mixedEngine.detectors, d.riskScale.isFinite = true := by decide +kernel
  have htime : ¬ mixedEngine.timeout ≤ Scalar.ofInt 0 := by decide +kernel
  have hpoll : Poll mixedEngine.timeout Sample.bundle mixedEngine.detectors
      (mixedEngine.hub.started Sample.bundle)
      [some (.reply (.failed (.noText .tooDeep))), some (.reply (.signal ⟨0.75, [], none, []⟩))]
      (mixedEngine.hub.started Sample.bundle) :=
    .cons (.reply rfl htime) (.cons (.reply rfl htime) (.nil _))
  have hok : (mixedEngine.scanBundle Sample.bundle).1.isOk = true := by decide +kernel
  obtain ⟨r, hs⟩ := exists_eq_ok hok
  obtain ⟨_, _, _, _, hc⟩ := scanBundle_completes hs
  have hskipped : r.skippedPatterns = ["BROKEN"] := hc.skipped
  have he : Reduced mixedEngine mixedRest r
      [some (.reply (.failed (.noText .tooDeep))), some (.reply (.signal ⟨0.75, [], none, []⟩))] :=
    ⟨rfl, by rw [hskipped]; rfl, rfl⟩
  obtain ⟨r', hs', _, hsame, hrisk, _, hskipped', hfailed⟩ :=
    scanBundle_isolation mixedEngine mixedRest Sample.bundle r _ _ mixedEngine_reachable
      mixedEngine_steady mixedEngine_clean hs hpoll he
  exact ⟨r, r', hs, hskipped, hs', hskipped', hfailed, hrisk, hsame hscales⟩

/-! ## a scale without bound -/

/-- a detector whose signal comes to zero percent of an infinite risk -/
def unboundedEngine : Engine Float :=
  Sample.engine [] [Sample.detector "far" 0.0 (1.0 / 0.0) (.signal ⟨0.001, [], none, []⟩)]

theorem unboundedEngine_steady : ∀ d ∈ unboundedEngine.detectors, d.Steady Sample.bundle := by
  intro d hd k k'
  rw [List.mem_singleton.mp hd]
  rfl

theorem unboundedEngine_clean : unboundedEngine.Clean Sample.bundle := by
  refine ⟨fun p hp => (nomatch hp), by decide +kernel, fun d hd k s hsignal => ?_⟩
  rw [List.mem_singleton.mp hd] at hsignal
  cases hsignal
  exact fun m hm => nomatch hm

/-- a list that starts with NaN for a risk score has the same content as no other list -/
theorem not_sameContent_of_isNaN {fs gs : List (Finding Float)} {bs : List Bool}
    (h : fs.map (·.riskScore.isNaN) = true :: bs) :
    ¬ List.Forall₂ (fun f g => f.sameContent g = true) fs gs := by
  obtain ⟨f, fs, rfl, hisNaN, _⟩ := List.map_eq_cons_iff.mp h
  intro hall
  obtain ⟨g, gs, hfg, _, _⟩ := List.forall₂_cons_left_iff.mp hall
  rw [Finding.sameContent_of_isNaN hisNaN] at hfg
  exact nomatch hfg

/-- nothing fails, but a second scan that starts from the state after the first one does not find the
same content -/
theorem sameContent_fails_unbounded :
    ∃ r r' as polled, unboundedEngine.hub.registry.Reachable ∧
      (∀ d ∈ unboundedEngine.detectors, d.Steady Sample.bundle) ∧
      unboundedEngine.Clean Sample.bundle ∧
      (unboundedEngine.scanBundle Sample.bundle).1 = .ok r ∧
      Poll unboundedEngine.timeout Sample.bundle unboundedEngine.detectors
        (unboundedEngine.hub.started Sample.bundle) as polled ∧
      Reduced unboundedEngine (unboundedEngine.scanBundle Sample.bundle).2 r as ∧
      ((unboundedEngine.scanBundle Sample.bundle).2.scanBundle Sample.bundle).1 = .ok r' ∧
      ¬ List.Forall₂ (fun f g => f.sameContent g = true) r.findings r'.findings := by
  have htime : ¬ unboundedEngine.timeout ≤ Scalar.ofInt 0 := by decide +kernel
  have hpoll : Poll unboundedEngine.timeout Sample.bundle unboundedEngine.detectors
      (unboundedEngine.hub.started Sample.bundle)
      [some (.reply (.signal ⟨0.001, [], none, []⟩))]
      (unboundedEngine.hub.started Sample.bundle) :=
    .cons (.reply rfl htime) (.nil _)
  have hnan : ((unboundedEngine.scanBundle Sample.bundle).1.toOption.map fun r =>
      r.findings.map (·.riskScore.isNaN)) = some [true] := by decide +kernel
  have hkept : (unboundedEngine.scanBundle Sample.bundle).2.hub.registry.patterns = [] :=
    List.isEmpty_iff.mp (by decide +kernel)
  have hagain : ((unboundedEngine.scanBundle Sample.bundle).2.scanBundle Sample.bundle).1.isOk =
      true := by decide +kernel
  have hok : (unboundedEngine.scanBundle Sample.bundle).1.isOk = true := by decide +kernel
  obtain ⟨r, hs⟩ := exists_eq_ok hok
  obtain ⟨r', hs'⟩ := exists_eq_ok hagain
  rw [hs] at hnan
  have hreduced : Reduced unboundedEngine (unboundedEngine.scanBundle Sample.bundle).2 r
      [some (.reply (.signal ⟨0.001, [], none, []⟩))] :=
    ⟨Engine.scanBundle_timeout _ _, hkept, Engine.scanBundle_detectors _ _⟩
  exact ⟨r, r', _, _, .empty, unboundedEngine_steady, unboundedEngine_clean, hs, hpoll, hreduced, hs',
    not_sameContent_of_isNaN (Option.some.inj hnan)⟩

end ContractRisk
