import ContractRisk.Proofs.Pattern.File
import ContractRisk.Proofs.Scan.Escalation
import ContractRisk.Proofs.Scan.Interleaving

/-!
# Identifiers tell where a finding comes from

No pattern is named with the mark of the detectors or with that of an escalation: its definition refuses
such a name, and an update cannot give another one. The identifiers of patterns, of detectors and of the
escalation are therefore three namespaces with nothing in common.

* `Engine.Built.reachable`   however an engine is built and used, its registry is reachable;
* `Engine.Built.scanSubject_separates`   in all reports of such an engine, the mark of an identifier tells
  the source of the finding, no pattern has two findings, and none has a finding and is skipped.
-/

namespace ContractRisk

/-! ## marks -/

/-- the identifier starts with the mark -/
def Marked (mark id : String) : Prop := mark.toList <+: id.toList

theorem marked_append (mark s : String) : Marked mark (mark ++ s) := by
  unfold Marked
  rw [String.toList_append]
  exact List.prefix_append _ _

theorem isReserved_eq_false_iff {id : String} :
    isReserved id = false ↔ ¬ Marked detectorMark id ∧ ¬ Marked escalationMark id := by
  unfold isReserved Marked
  rw [← Bool.not_eq_true, List.any_eq_true]
  simp [List.isPrefixOf_iff_prefix]

/-- no identifier has both marks: neither of them starts with the other -/
theorem Marked.apart {id : String} (hd : Marked detectorMark id) : ¬ Marked escalationMark id := by
  intro he
  rcases List.prefix_or_prefix_of_prefix hd he with h | h
  · exact absurd h (by decide)
  · exact absurd h (by decide)

theorem marked_escalationId : Marked escalationMark Finding.escalationId := by
  unfold Marked
  decide

/-! ## engines in use -/

variable {α : Type} [Scalar α]

/-- asked about the bundle, the detector changes the registry by calls at most -/
def Detector.Orderly (b : Bundle α) (d : Detector α (Hub α)) : Prop :=
  ∀ k : Hub α, ∃ cs, (d.analyze b k).2.registry = (k.registry.run cs).2

/-- the engines that come of making one on a reachable registry, adding patterns, updating them, loading
files of them, whether all of a file is registered or not, and scanning with detectors that do no more -/
inductive Engine.Built : Engine α → Prop
  | made {settings : Settings α} {detectors : Option (List (Detector α (Hub α)))} {files : FileTree}
      {supply : Supply} {now : α} {r : Registry α} {m : Machine} {e : Engine α} : r.Reachable →
      (ofSettings settings detectors files supply now r m).1 = .ok e → Built e
  | added {e e' : Engine α} {d : Draft α} {p : Pattern α} : Built e → Pattern.define d = .ok p →
      e.addPattern p = .ok e' → Built e'
  | updated {e e' : Engine α} {id : String} {a : Amendment α} {found : Bool} : Built e →
      e.updatePattern id a = .ok (found, e') → Built e'
  | loaded {e : Engine α} {files : FileTree} {path : String} {m : Machine} : Built e →
      Built (e.withRegistry (addFile files path e.hub.registry m).2)
  | scanned {e : Engine α} {b : Bundle α} : Built e → (∀ d ∈ e.detectors, d.Orderly b) →
      Built (e.scanBundle b).2

omit [Scalar α] in
/-- the patterns of a file are defined ones -/
theorem Pattern.load_defined {files : FileTree} {path : String} {m : Machine} {ps : List (Pattern α)}
    (h : Pattern.load files path m = .ok ps) : ∀ p ∈ ps, ∃ d, Pattern.define d = .ok p := by
  obtain ⟨xs, _, hps⟩ := Pattern.load_eq_ok_iff.mp h
  intro p hp
  obtain ⟨x, _, hx⟩ := forall₂_exists_left hps hp
  exact hx.defined

namespace Engine

omit [Scalar α] in
/-- loading a file registers defined patterns, as many as are accepted -/
theorem addFile_reachable {files : FileTree} {path : String} {r : Registry α} {m : Machine}
    (hr : r.Reachable) : (addFile files path r m).2.Reachable := by
  unfold addFile
  cases hload : (Pattern.load files path m : Except PatternFileFault (List (Pattern α))) with
  | error f => exact hr
  | ok ps =>
    dsimp only
    have hreach := hr.registerEach (Pattern.load_defined hload) rfl
    generalize r.registerEach ps = x at hreach
    obtain ⟨f, r'⟩ := x
    cases f <;> exact hreach

omit [Scalar α] in
theorem addCustom_reachable {settings : Settings α} {files : FileTree} {r : Registry α} {m : Machine}
    (hr : r.Reachable) : (addCustom settings files r m).2.Reachable := by
  unfold addCustom
  split
  · exact hr
  · exact addFile_reachable hr

/-- an engine that is made has the registry that the custom patterns leave -/
theorem ofSettings_registry {settings : Settings α}
    {detectors : Option (List (Detector α (Hub α)))} {files : FileTree} {supply : Supply} {now : α}
    {r : Registry α} {m : Machine} {e : Engine α}
    (h : (ofSettings settings detectors files supply now r m).1 = .ok e) :
    e.hub.registry = (addCustom settings files r m).2 := by
  unfold ofSettings at h
  generalize addCustom settings files r m = x at h
  obtain ⟨notes | f, r'⟩ := x
  · exact nomatch h
  · cases h
    rfl

omit [Scalar α] in
theorem addPattern_registry {e e' : Engine α} {p : Pattern α} (h : e.addPattern p = .ok e') :
    e.hub.registry.register p = .ok e'.hub.registry := by
  unfold addPattern at h
  cases hr : e.hub.registry.register p with
  | error f =>
    rw [hr] at h
    exact nomatch h
  | ok r =>
    rw [hr] at h
    cases h
    rfl

omit [Scalar α] in
theorem updatePattern_registry {e e' : Engine α} {id : String} {a : Amendment α} {found : Bool}
    (h : e.updatePattern id a = .ok (found, e')) :
    e'.hub.registry = e.hub.registry ∨
      ∃ p, e.hub.registry.update id a = .ok (p, e'.hub.registry) := by
  unfold updatePattern at h
  split at h
  · next p r hr =>
    cases h
    exact .inr ⟨p, hr⟩
  · cases h
    exact .inl rfl
  · exact nomatch h

/-- a scan changes the registry by calls at most if its detectors do -/
theorem scanBundle_registry {e : Engine α} {b : Bundle α} (hds : ∀ d ∈ e.detectors, d.Orderly b) :
    ∃ cs, (e.scanBundle b).2.hub.registry = (e.hub.registry.run cs).2 := by
  obtain ⟨cs, f, hrun, _⟩ := System.scanBundle_run ⟨e, []⟩ b hds
  exact ⟨cs, hrun.registry_eq⟩

theorem Built.reachable {e : Engine α} (h : e.Built) : e.hub.registry.Reachable := by
  induction h with
  | made hr hmade =>
    rw [ofSettings_registry hmade]
    exact addCustom_reachable hr
  | added _ hd hadd ih => exact ih.register hd (addPattern_registry hadd)
  | updated _ hupdate ih =>
    rcases updatePattern_registry hupdate with hsame | ⟨p, hp⟩
    · rw [hsame]
      exact ih
    · exact ih.update hp
  | loaded _ ih => exact addFile_reachable ih
  | scanned _ hds ih =>
    obtain ⟨cs, hcs⟩ := scanBundle_registry hds
    rw [hcs]
    exact ih.run cs

/-- engines in use may be called, also if the call is refused -/
theorem Built.call {e : Engine α} (h : e.Built) (c : Registry.Call α) : (e.call c).Built := by
  cases c with
  | register p hp =>
    obtain ⟨d, hd⟩ := hp
    simp only [Engine.call]
    cases hadd : e.addPattern p with
    | ok e' => exact h.added hd hadd
    | error f => exact h
  | update id a =>
    simp only [Engine.call]
    cases hupdate : e.updatePattern id a with
    | ok x => exact h.updated hupdate
    | error f => exact h

end Engine

/-! ## reports -/

/-- the three ways in which a finding comes about, with the identifiers that it may have -/
inductive Finding.Stems (registered : List String) (f : Finding α) : Prop
  | rule : f.source = .rule → f.patternId ∈ registered → isReserved f.patternId = false →
      Stems registered f
  | detector : f.source = .detector → Marked detectorMark f.patternId → Stems registered f
  | escalation : f.source = .escalation → f.patternId = Finding.escalationId → Stems registered f

namespace Finding.Stems

variable {ids : List String} {f : Finding α}

omit [Scalar α] in
theorem isEscalation_iff (h : f.Stems ids) :
    f.source = .escalation ↔ Marked escalationMark f.patternId := by
  cases h with
  | rule hsource _ hfree =>
    rw [hsource]
    exact ⟨nofun, fun he => absurd he (isReserved_eq_false_iff.mp hfree).2⟩
  | detector hsource hd =>
    rw [hsource]
    exact ⟨nofun, fun he => absurd he hd.apart⟩
  | escalation hsource hid =>
    rw [hid]
    exact ⟨fun _ => marked_escalationId, fun _ => hsource⟩

omit [Scalar α] in
theorem isDetector_iff (h : f.Stems ids) :
    f.source = .detector ↔ Marked detectorMark f.patternId := by
  cases h with
  | rule hsource _ hfree =>
    rw [hsource]
    exact ⟨nofun, fun hd => absurd hd (isReserved_eq_false_iff.mp hfree).1⟩
  | detector hsource hd => exact ⟨fun _ => hd, fun _ => hsource⟩
  | escalation hsource hid =>
    rw [hsource, hid]
    exact ⟨nofun, fun hd => absurd marked_escalationId hd.apart⟩

omit [Scalar α] in
theorem isRule_iff (h : f.Stems ids) : f.source = .rule ↔
    ¬ Marked escalationMark f.patternId ∧ ¬ Marked detectorMark f.patternId := by
  rw [← h.isEscalation_iff, ← h.isDetector_iff]
  cases f.source <;> simp

omit [Scalar α] in
theorem registered (h : f.Stems ids) (hsource : f.source = .rule) : f.patternId ∈ ids := by
  cases h with
  | rule _ hmem _ => exact hmem
  | detector hd _ => exact nomatch hsource.symm.trans hd
  | escalation he _ => exact nomatch hsource.symm.trans he

omit [Scalar α] in
theorem patternId_of_escalation (h : f.Stems ids) (hsource : f.source = .escalation) :
    f.patternId = Finding.escalationId := by
  cases h with
  | rule hr _ _ => exact nomatch hsource.symm.trans hr
  | detector hd _ => exact nomatch hsource.symm.trans hd
  | escalation _ hid => exact hid

end Finding.Stems

theorem Lead.Gives.stems {b : Bundle α} {r : Registry α} (hr : r.Reachable)
    {asked : List (Asked α)} {l : Lead α} (hl : l ∈ leads (screen r.patterns b) asked)
    {f : Finding α} (h : l.Gives b f) : f.Stems r.ids := by
  obtain ⟨id, hid⟩ := h
  cases l with
  | rule m =>
    have hm := Finding.ofMatch_eq_ok_iff.mp hid
    have hfound : m ∈ (screen r.patterns b).found := by
      rcases List.mem_append.mp hl with hl | hl
      · obtain ⟨m', hm', heq⟩ := List.mem_map.mp hl
        cases heq
        exact hm'
      · obtain ⟨x, _, hx⟩ := List.mem_filterMap.mp hl
        obtain ⟨_, _, heq⟩ := Option.map_eq_some_iff.mp hx
        exact nomatch heq
    rw [found_screen] at hfound
    obtain ⟨p, hp, hmatch⟩ := List.mem_filterMap.mp hfound
    obtain rfl := Pattern.match?_pattern hmatch
    obtain ⟨d, hd⟩ := hr.defined _ hp
    refine .rule hm.source ?_ ?_
    · rw [hm.patternId]
      exact List.mem_map_of_mem hp
    · rw [hm.patternId]
      exact hd.not_isReserved
  | signal d s =>
    have hs := Finding.ofSignal_eq_ok_iff.mp hid
    refine .detector hs.source ?_
    rw [hs.patternId]
    exact marked_append detectorMark d.id

/-- the identifiers of a report tell the sources of its findings apart -/
structure Report.Separates (registered : List String) (r : Report α) : Prop where
  escalation : ∀ f ∈ r.findings, f.source = .escalation ↔ Marked escalationMark f.patternId
  escalationId : ∀ f ∈ r.findings, f.source = .escalation → f.patternId = Finding.escalationId
  detector : ∀ f ∈ r.findings, f.source = .detector ↔ Marked detectorMark f.patternId
  rule : ∀ f ∈ r.findings, f.source = .rule ↔
    ¬ Marked escalationMark f.patternId ∧ ¬ Marked detectorMark f.patternId
  registered : ∀ f ∈ r.findings, f.source = .rule → f.patternId ∈ registered
  distinct : ((r.findings.filter fun f => f.source = .rule).map (·.patternId)).Nodup
  skipped : ∀ f ∈ r.findings, f.source = .rule → f.patternId ∉ r.skippedPatterns

theorem Concludes.stems {b : Bundle α} {scanId : String} {r : Registry α} (hr : r.Reachable)
    {asked : List (Asked α)} {fs extra : List (Finding α)} {report : Report α}
    (hc : Concludes b scanId (screen r.patterns b) asked fs extra report) :
    ∀ f ∈ report.findings, f.Stems r.ids := by
  intro f hf
  rw [hc.findings, (Finding.rank_perm _).mem_iff] at hf
  rcases List.mem_append.mp hf with hf | hf
  · obtain ⟨l, hl, hgives⟩ := forall₂_exists_left hc.made hf
    exact hgives.stems hr hl
  · rcases hc.summary with ⟨_, id, rfl⟩ | ⟨_, rfl⟩
    · rw [List.mem_singleton.mp hf]
      exact .escalation rfl rfl
    · exact nomatch hf

/-- the patterns with findings are some of those that hold, each at most once -/
theorem Report.Shows.rule_ids {b : Bundle α} {ps : List (Pattern α)} {r : Report α}
    (h : r.Shows b ps) : ((r.findings.filter fun f => f.source = .rule).map (·.patternId)).Perm
      ((ps.filter (Pattern.holds b)).map (·.id)) := by
  obtain ⟨rules, hrules, hperm⟩ := h.rules
  exact (hperm.map _).trans (.of_eq (patternId_of_ofMatch hrules))

theorem Concludes.separates {b : Bundle α} {scanId : String} {r : Registry α} (hr : r.Reachable)
    {asked : List (Asked α)} {fs extra : List (Finding α)} {report : Report α}
    (hc : Concludes b scanId (screen r.patterns b) asked fs extra report) :
    report.Separates r.ids := by
  have hstems := hc.stems hr
  have hids := hc.shows.rule_ids
  exact {
    escalation := fun f hf => (hstems f hf).isEscalation_iff
    escalationId := fun f hf => (hstems f hf).patternId_of_escalation
    detector := fun f hf => (hstems f hf).isDetector_iff
    rule := fun f hf => (hstems f hf).isRule_iff
    registered := fun f hf => (hstems f hf).registered
    distinct := hids.nodup_iff.mpr (hr.nodup_ids.sublist (List.filter_sublist.map _))
    skipped := by
      intro f hf hsource hskipped
      have hrule : f.patternId ∈ (r.patterns.filter (Pattern.holds b)).map (·.id) := by
        rw [← hids.mem_iff]
        exact List.mem_map_of_mem (List.mem_filter.mpr ⟨hf, by simp [hsource]⟩)
      rw [hc.shows.skipped] at hskipped
      obtain ⟨p, hp, hpid⟩ := List.mem_map.mp hrule
      obtain ⟨q, hq, hqid⟩ := List.mem_map.mp hskipped
      obtain ⟨hpmem, hholds⟩ := List.mem_filter.mp hp
      obtain ⟨hqmem, hbreaks⟩ := List.mem_filter.mp hq
      obtain rfl := List.inj_on_of_nodup_map hr.nodup_ids hpmem hqmem (hpid.trans hqid.symm)
      rcases Pattern.outcome_cases b p with ⟨_, h, _⟩ | ⟨h, _⟩ | ⟨h, _⟩
      · rw [hbreaks] at h
        exact nomatch h
      · rw [hholds] at h
        exact nomatch h
      · rw [hholds] at h
        exact nomatch h }

omit [Scalar α] in
theorem Report.Separates.mono {ids ids' : List String} {r : Report α} (h : r.Separates ids)
    (hids : ids ⊆ ids') : r.Separates ids' :=
  { h with registered := fun f hf hsource => hids (h.registered f hf hsource) }

/-- **Three namespaces.** In every report of an engine in use, whatever its detectors do: the mark of an
identifier tells the source of the finding, the rule findings are about registered patterns, one for each
pattern at most, and no pattern has a finding and is skipped too. The patterns are still registered after
the scan if the detectors change the registry by calls at most. -/
theorem Engine.Built.scanSubject_separates {e : Engine α} (h : e.Built) {s : Subject α} {r : Report α}
    (hs : (e.scanSubject s).1 = .ok r) :
    r.Separates e.hub.registry.ids ∧
      ((∀ b, ∀ d ∈ e.detectors, d.Orderly b) → r.Separates (e.scanSubject s).2.hub.registry.ids) := by
  obtain ⟨b, hb, hscan⟩ := Engine.scanSubject_eq_ok hs
  obtain ⟨asked, fs, extra, hc⟩ := scanBundle_concludes hscan
  have hseparates := hc.separates h.reachable
  refine ⟨hseparates, fun hds => hseparates.mono ?_⟩
  obtain ⟨cs, hcs⟩ := scanBundle_registry (hds b)
  rw [Engine.scanSubject_of_ok hb]
  show _ ⊆ (e.scanBundle b).2.hub.registry.ids
  rw [hcs, (Registry.run_continues e.hub.registry cs).ids]
  exact List.subset_append_left _ _

/-- an engine with no patterns and a detector that is sure of a critical mistake -/
def bareEngine : Engine Float :=
  { Sample.engine [] [Sample.detector "sure" 0.5 1.0 (.signal ⟨0.75, [], some .critical, []⟩)] with
    hub := ⟨.empty, .ofStandard 1000, ⟨Text.natText, 0⟩, 0, []⟩ }

theorem bareEngine_built : bareEngine.Built := by
  let settings : Settings Float :=
    ⟨"threatscan", "development", "INFO", true, Scalar.ofInt 1, "", 1000, "", "", "", .high, 10.0⟩
  have hmade : (Engine.ofSettings settings (some bareEngine.detectors) (fun _ => .error .missing)
      ⟨Text.natText, 0⟩ 0 .empty).1 = .ok bareEngine := rfl
  exact .made .empty hmade

/-- a pattern that is added and then made critical: with the detector there are two critical findings, and
the scan is escalated -/
theorem Engine.Built.scanSubject_separates_crowded :
    let hit : Pattern Float := Sample.pattern "HIT" .low fun _ => .ok (.holds true)
    let hd : Pattern.define hit.toDraft = .ok hit := Sample.define_pattern (by decide +kernel) .low _
    let e := (bareEngine.call (.register hit ⟨_, hd⟩)).call
      (.update "HIT" ⟨[("severity", .text "critical")], none⟩)
    e.hub.registry.ids = ["HIT"] ∧
      ∃ r, (e.scanSubject (.bundle Sample.bundle)).1 = .ok r ∧ r.risk.critical = 2 ∧
        r.escalated = true ∧ r.Separates ["HIT"] := by
  intro hit hd e
  have hbuilt : e.Built := (bareEngine_built.call _).call _
  have hids : e.hub.registry.ids = ["HIT"] := by decide +kernel
  have hok : (e.scanSubject (.bundle Sample.bundle)).1.toOption.any (fun r =>
      decide (r.risk.critical = 2) && r.escalated) = true := by decide +kernel
  obtain ⟨r, hr, hseen⟩ := exists_ok_of_any hok
  rw [Bool.and_eq_true, decide_eq_true_eq] at hseen
  have hseparates := (hbuilt.scanSubject_separates hr).1
  rw [hids] at hseparates
  exact ⟨hids, r, hr, hseen.1, hseen.2, hseparates⟩

end ContractRisk
