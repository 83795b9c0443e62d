import ContractRisk.Proofs.CommandLine.Listing
import ContractRisk.Proofs.Finding.Content
import ContractRisk.Proofs.Registry.Catalog
import ContractRisk.Proofs.Scan.Findings
import ContractRisk.Proofs.Value.Document

/-!
# Reports that can always be made and shown

A finding is made of texts, and it is listed if its metadata have documents that can be written
(`Finding.Listable`). What patterns and detectors choose freely need not be so; those that are built in choose
nothing else (`Pattern.Presentable`, `Detector.Presentable`).

* `Detector.standard_presentable`, `Catalog.presentable`   the standard detectors and the catalog;
* `scanBundle_presentable`   with such patterns and detectors, every bundle has a report, and all findings in
  it are listed.
-/

namespace ContractRisk

/-! ## patterns -/

variable {α : Type}

/-- the value has a document that can be written -/
def Value.Listable (v : Value) : Prop :=
  ∃ w, v.document documentLevels = .ok w ∧ w.merged.isWritable = true

theorem Value.listable_text (s : String) : (text s).Listable := ⟨_, rfl, rfl⟩

/-- the finding of a match can be made, listed and shown -/
structure Pattern.Presentable (p : Pattern α) : Prop where
  textual : p.Textual
  plain : p.Plain
  version : p.version.toValue.Listable
  referenceId : p.referenceId.Listable

theorem isText_of_mem_map (ss : List String) {v : Value} (h : v ∈ ss.map Value.text) : v.IsText := by
  obtain ⟨s, _, rfl⟩ := List.mem_map.mp h
  exact ⟨s, rfl⟩

theorem Catalog.Entry.presentable {e : Entry} (he : e ∈ entries)
    (heuristic : String × (Bundle α → List String)) : (e.pattern heuristic).Presentable where
  textual := ⟨⟨_, rfl⟩, ⟨_, rfl⟩, fun _ hv => isText_of_mem_map _ hv, ⟨_, rfl⟩⟩
  plain := e.plain he heuristic
  version := ⟨.int 1, rfl, by decide +kernel⟩
  referenceId := by
    unfold Entry.pattern
    cases e.referenceId with
    | none => exact ⟨_, rfl, rfl⟩
    | some s => exact Value.listable_text s

variable [Scalar α]

theorem Catalog.presentable : ∀ p ∈ (patterns : List (Pattern α)), p.Presentable := by
  intro p hp
  obtain ⟨e, he, heuristic, rfl⟩ := mem_patterns hp
  exact e.presentable he heuristic

/-! ## signals -/

/-- a signal is shown with texts, and its metadata can be listed -/
structure Signal.Presentable (s : Signal α) : Prop where
  evidence : ∀ v ∈ s.evidence, v.IsText
  metadata : ∀ m ∈ s.metadata, (m.2.document Value.documentLevels).isOk = true

theorem Signal.presentable_silence : (⟨(0.0 : α), [], none, []⟩ : Signal α).Presentable :=
  ⟨fun _ hv => (nomatch hv), fun _ hm => (nomatch hm)⟩

theorem texts_document_isOk {β : Type} (name : β → String) (xs : List β) :
    ((Value.list (xs.map fun x => .text (name x))).document Value.documentLevels).isOk = true := by
  rw [Value.documentLevels, Value.list_document_isOk_iff, List.forall_mem_map]
  exact fun _ _ => rfl

theorem Bytecode.exactSignal_presentable (digest : String) :
    (exactSignal digest : Signal α).Presentable where
  evidence := fun _ hv => isText_of_mem_map [_] hv
  metadata := by
    simp only [exactSignal, List.forall_mem_cons]
    exact ⟨rfl, rfl, fun _ hm => absurd hm List.not_mem_nil⟩

theorem Bytecode.similaritySignal_presentable (code digest : String) :
    (similaritySignal code digest : Signal α).Presentable where
  evidence := by
    intro v hv
    obtain ⟨f, _, rfl⟩ := List.mem_map.mp hv
    exact ⟨_, rfl⟩
  metadata := by
    simp only [similaritySignal, List.forall_mem_cons, texts_document_isOk]
    exact ⟨rfl, rfl, trivial, fun _ hm => absurd hm List.not_mem_nil⟩

theorem Bytecode.signal_presentable (known : List String) (b : Bundle α) :
    (signal known b).Presentable :=
  signal_induction exactSignal_presentable similaritySignal_presentable known b

theorem Social.signal_presentable (b : Bundle α) : (signal b).Presentable := by
  unfold signal
  generalize b.socialMetrics.elim [] signals = ss
  cases ss with
  | nil => exact Signal.presentable_silence
  | cons s ss =>
    constructor
    · exact fun _ hv => isText_of_mem_map _ hv
    · have hsignals : ((Value.map ((s :: ss).map fun s =>
          (Value.text s.1.name, Value.float (Scalar.toFloat s.2)))).document
          Value.documentLevels).isOk = true := by
        have hmap : (Value.map ((s :: ss).map fun s =>
            (Value.text s.1.name, Value.float (Scalar.toFloat s.2)))) =
            textMap ((s :: ss).map fun s => (s.1.name, Value.float (Scalar.toFloat s.2))) := by
          rw [textMap, List.map_map]
          rfl
        rw [hmap, Value.documentLevels, Value.textMap_document_isOk_iff, List.forall_mem_map]
        exact fun _ _ => rfl
      simp only [List.forall_mem_cons, hsignals]
      exact ⟨rfl, trivial, fun _ hm => absurd hm List.not_mem_nil⟩

theorem Trading.signal_presentable (b : Bundle α) : (signal b).Presentable := by
  unfold signal
  dsimp only
  split
  · exact Signal.presentable_silence
  · constructor
    · exact fun _ hv => isText_of_mem_map _ hv
    · simp only [List.forall_mem_cons]
      exact ⟨rfl, rfl, rfl, fun _ hm => absurd hm List.not_mem_nil⟩

/-! ## detectors -/

/-- whatever the detector replies, the finding of its signal can be made and listed -/
structure Detector.Presentable (d : Detector α (Hub α)) : Prop where
  textual : d.Textual
  signal : ∀ b k s, (d.analyze b k).1 = .signal s → s.Presentable

theorem Reply.eq_of_ofSignal {s s' : Signal α} (h : Reply.ofSignal s = .signal s') : s' = s := by
  unfold Reply.ofSignal at h
  split at h
  · exact (Reply.signal.inj h).symm
  · exact nomatch h

theorem Detector.presentable_of_signal {d : Detector α (Hub α)} {signal : Bundle α → Signal α}
    (htextual : d.Textual) (hreply : ∀ b k, (d.analyze b k).1 = .ofSignal (signal b))
    (hsignal : ∀ b, (signal b).Presentable) : d.Presentable where
  textual := htextual
  signal b k s hs := by
    rw [hreply] at hs
    rw [Reply.eq_of_ofSignal hs]
    exact hsignal b

theorem Detector.standard_presentable :
    ∀ d ∈ (Detector.standard : List (Detector α (Hub α))), d.Presentable := by
  intro d hd
  rcases List.mem_cons.mp hd with rfl | hd
  · refine presentable_of_signal ⟨⟨_, rfl⟩, ⟨_, rfl⟩, fun v hv => ?_, ⟨_, rfl⟩⟩ (fun _ _ => rfl)
      (Bytecode.signal_presentable [])
    exact isText_of_mem_map [_, _] hv
  rcases List.mem_cons.mp hd with rfl | hd
  · refine presentable_of_signal ⟨⟨_, rfl⟩, ⟨_, rfl⟩, fun v hv => ?_, ⟨_, rfl⟩⟩ (fun _ _ => rfl)
      Social.signal_presentable
    exact isText_of_mem_map [_, _, _] hv
  · rw [List.mem_singleton.mp hd]
    refine presentable_of_signal ⟨⟨_, rfl⟩, ⟨_, rfl⟩, fun v hv => ?_, ⟨_, rfl⟩⟩ (fun _ _ => rfl)
      Trading.signal_presentable
    exact isText_of_mem_map [_, _, _] hv

/-! ## scans -/

section
variable {timeout : α} {ds : List (Detector α (Hub α))} {b : Bundle α} {h h' : Hub α}
  {as : List (Option (Answer α))}

/-- a signal that contributes is one that its detector replied -/
theorem Poll.presentable (hp : Poll timeout b ds h as h') (hds : ∀ d ∈ ds, d.Presentable)
    {c : Detector α (Hub α) × Signal α} (hc : c ∈ contributions ds as) :
    c.1.Presentable ∧ c.2.Presentable := by
  obtain ⟨hzip, _⟩ := mem_contributions hc
  obtain ⟨k, hk⟩ := hp.exists_analyze hzip
  have hd := hds c.1 (List.of_mem_zip hzip).1
  exact ⟨hd, hd.signal b k c.2 hk⟩

theorem scanLeads_fit (hp : Poll timeout b ds h as h') (hds : ∀ d ∈ ds, d.Presentable)
    {ps : List (Pattern α)} (hps : ∀ p ∈ ps, p.Presentable) :
    ∀ l ∈ scanLeads b ps ds as, l.Fit := by
  intro l hl
  rcases List.mem_append.mp hl with hl | hl
  · obtain ⟨m, hm, rfl⟩ := List.mem_map.mp hl
    obtain ⟨p, hpmem, hmatch⟩ := List.mem_filterMap.mp hm
    obtain rfl := Pattern.match?_pattern hmatch
    exact (hps _ hpmem).textual
  · obtain ⟨c, hc, rfl⟩ := List.mem_map.mp hl
    obtain ⟨hd, hs⟩ := hp.presentable hds hc
    exact ⟨hd.textual, hs.evidence⟩

end

/-- all metadata of the finding have documents, and those that a pattern chose can be written -/
structure Finding.Listable (f : Finding α) : Prop where
  documents : ∀ m ∈ f.metadata, (m.2.document Value.documentLevels).isOk = true
  numbers : f.source = .rule → ∀ m ∈ f.metadata, m.2.Listable

omit [Scalar α] in
theorem Report.not_unlisted {r : Report α} {shown : List (Finding α)} (hshown : shown ⊆ r.findings)
    (hall : ∀ f ∈ r.findings, f.Listable) (fault : DocumentFault) : ¬ r.Unlisted shown fault := by
  intro h
  cases h with
  | document hf hm hfault =>
    have hdocument := (hall _ hf).documents _ hm
    rw [hfault] at hdocument
    exact nomatch hdocument
  | number hf hsource hm hw hlong =>
    obtain ⟨w', hw', hwritable⟩ := (hall _ (hshown hf)).numbers hsource _ hm
    obtain rfl := Except.ok.inj (hw.symm.trans hw')
    exact nomatch hwritable.symm.trans hlong

theorem Finding.MatchFinding.listable {id : String} {m : PatternMatch α} {b : Bundle α}
    {f : Finding α} (h : MatchFinding id m b f) (hp : m.pattern.Presentable) : f.Listable := by
  have hall : ∀ e ∈ f.metadata, e.2.Listable := by
    rw [h.metadata]
    simp only [List.forall_mem_cons]
    exact ⟨Value.listable_text _, hp.version, hp.referenceId, fun _ he => absurd he List.not_mem_nil⟩
  refine ⟨fun e he => ?_, fun _ => hall⟩
  obtain ⟨w, hw, -⟩ := hall e he
  rw [hw]
  rfl

theorem Finding.SignalFinding.listable {σ : Type} {id : String} {d : Detector α σ}
    {s : Signal α} {b : Bundle α} {f : Finding α} (h : SignalFinding id d s b f)
    (hs : s.Presentable) : f.Listable where
  documents := h.forall_metadata (P := fun v => (v.document Value.documentLevels).isOk = true) rfl rfl rfl
    hs.metadata
  numbers hsource := nomatch h.source.symm.trans hsource

theorem Finding.listable_escalation (id : String) (p : RiskProfile α) (b : Bundle α) :
    (escalation id p b).Listable where
  documents := by
    have hprofile : ((textMap p.fields).document Value.documentLevels).isOk = true := by
      rw [Value.documentLevels, Value.textMap_document_isOk_iff]
      simp only [RiskProfile.fields, List.forall_mem_cons]
      exact ⟨rfl, rfl, rfl, rfl, rfl, rfl, fun _ hf => absurd hf List.not_mem_nil⟩
    simp only [escalation, List.forall_mem_cons]
    exact ⟨hprofile, rfl, fun _ hm => absurd hm List.not_mem_nil⟩
  numbers := nofun

theorem Completes.listable {timeout : α} {ds : List (Detector α (Hub α))} {b : Bundle α}
    {h : Hub α} {as : List (Option (Answer α))} {polled : Hub α} {fs extra : List (Finding α)}
    {r : Report α} (hc : Completes timeout ds b h as polled fs extra r)
    (hps : ∀ p ∈ h.registry.patterns, p.Presentable) (hds : ∀ d ∈ ds, d.Presentable) :
    ∀ f ∈ r.findings, f.Listable := by
  obtain ⟨rules, signals, rfl, hexpected⟩ := hc.expected
  have hall : ∀ f ∈ rules ++ signals ++ extra, f.Listable :=
    hexpected.forall_mem (fun hf hm => hf.listable (hps _ hm))
      (fun hf hmem => hf.listable (hc.poll.presentable hds hmem).2)
      (fun id => Finding.listable_escalation id _ b)
  exact fun f hf => hall f (hc.findings_perm.subset hf)

/-- **Every bundle has a report**, and all findings in it are listed. -/
theorem scanBundle_presentable {e : Engine α} (hps : ∀ p ∈ e.hub.registry.patterns, p.Presentable)
    (hds : ∀ d ∈ e.detectors, d.Presentable) (b : Bundle α) :
    ∃ r, (e.scanBundle b).1 = .ok r ∧ ∀ f ∈ r.findings, f.Listable := by
  obtain ⟨as, polled, fs, hpoll, hcase⟩ := scanWith_spec e.timeout e.detectors b e.hub
  rcases hcase with ⟨r, extra, hok, hc, _⟩ | ⟨problems, _, hgathered, _⟩
  · exact ⟨r, hok, hc.listable hps hds⟩
  · exact nomatch hgathered.isOk_iff.mpr (scanLeads_fit hpoll hds hps)

end ContractRisk
