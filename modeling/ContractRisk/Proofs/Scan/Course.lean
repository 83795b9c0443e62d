import ContractRisk.Proofs.Finding.Making
import ContractRisk.Proofs.Pattern.Soundness
import ContractRisk.Proofs.Registry.Reachable
import ContractRisk.Proofs.Scan.Polling
import Mathlib.Data.List.Forall2

/-!
# The course of a scan

A scan follows its leads in order: first the matches, then the signals that cross their thresholds
(`scanLeads`). Each lead that is `Fit` gives a finding, whatever its identifier; the first one that is
not ends the scan. Every finding is announced at once.

* `gather_spec`     the findings that are announced are those of the leads before the first unfit one;
* `finish_spec`     what is left of a scan when the detectors have been asked;
* `scanWith_spec`   a scan is completed, and then it is as `Completes` says, or it is broken off at an
  unfit lead. In both cases the bus has heard of the findings made until then, and of nothing else
  since the detectors were polled.
-/

namespace ContractRisk

variable {α : Type} [Scalar α]

/-! ## leads -/

/-- what the findings of a scan are made from -/
def scanLeads (b : Bundle α) (ps : List (Pattern α)) (ds : List (Detector α (Hub α)))
    (as : List (Option (Answer α))) : List (Lead α) :=
  (ps.filterMap (Pattern.match? b)).map .rule ++ (contributions ds as).map fun c => .signal c.1 c.2

namespace Lead

/-- all data that the finding would show are texts -/
def Fit : Lead α → Prop
  | rule m => m.pattern.Textual
  | signal d s => d.Textual ∧ ∀ v ∈ s.evidence, v.IsText

/-- the lead gives this finding, under some identifier -/
def Gives (b : Bundle α) (l : Lead α) (f : Finding α) : Prop := ∃ id, l.finding id b = .ok f

theorem finding_isOk_iff {id : String} {b : Bundle α} {l : Lead α} :
    (∃ f, l.finding id b = .ok f) ↔ l.Fit := by
  cases l with
  | rule m => exact Finding.ofMatch_isOk_iff
  | signal d s => exact Finding.ofSignal_isOk_iff

theorem Gives.fit {b : Bundle α} {l : Lead α} {f : Finding α} (h : l.Gives b f) : l.Fit := by
  obtain ⟨id, hid⟩ := h
  exact finding_isOk_iff.mp ⟨f, hid⟩

end Lead

/-! ## events -/

def Bus.publishAll (b : Bus α) (es : List (Event α)) : Bus α := es.foldl publish b

omit [Scalar α] in
theorem Bus.publishAll_append (b : Bus α) (es es' : List (Event α)) :
    b.publishAll (es ++ es') = (b.publishAll es).publishAll es' := List.foldl_append

/-- one event for each finding -/
def eventsOf (now : α) (address scanId : String) (fs : List (Finding α)) : List (Event α) :=
  fs.map fun f => .ofFinding now f address scanId

omit [Scalar α] in
theorem eventsOf_append (now : α) (address scanId : String) (fs gs : List (Finding α)) :
    eventsOf now address scanId (fs ++ gs) =
      eventsOf now address scanId fs ++ eventsOf now address scanId gs := List.map_append

/-! ## following the leads -/

/-- `fs` are the findings of all leads, or of those before the first unfit one -/
inductive Gathered (b : Bundle α) (ls : List (Lead α)) :
    Except (List Problem) (List (Finding α)) → List (Finding α) → Prop
  | all {fs : List (Finding α)} : List.Forall₂ (Lead.Gives b) ls fs → Gathered b ls (.ok fs) fs
  | upTo {done post : List (Lead α)} {l : Lead α} {fs : List (Finding α)} {problems : List Problem} :
      ls = done ++ l :: post → List.Forall₂ (Lead.Gives b) done fs → ¬ l.Fit →
      Gathered b ls (.error problems) fs

theorem Gathered.cons {b : Bundle α} {l : Lead α} {ls : List (Lead α)} {f : Finding α}
    {fs : List (Finding α)} {outcome : Except (List Problem) (List (Finding α))}
    (h : l.Gives b f) (hs : Gathered b ls outcome fs) :
    Gathered b (l :: ls) (outcome.map (f :: ·)) (f :: fs) := by
  cases hs with
  | all hall => exact .all (.cons h hall)
  | upTo hls hdone hunfit =>
    subst hls
    exact .upTo (List.cons_append ..).symm (.cons h hdone) hunfit

/-- leads that are all fit are followed to the end, and only those -/
theorem Gathered.isOk_iff {b : Bundle α} {ls : List (Lead α)} {fs : List (Finding α)}
    {outcome : Except (List Problem) (List (Finding α))} (h : Gathered b ls outcome fs) :
    outcome = .ok fs ↔ ∀ l ∈ ls, l.Fit := by
  cases h with
  | all hall =>
    have hfit := ((List.forall₂_and_left ls fs).mp (hall.imp fun _ _ h => ⟨h.fit, h⟩)).1
    exact ⟨fun _ => hfit, fun _ => rfl⟩
  | upTo hls _ hunfit =>
    subst hls
    exact ⟨fun h => (nomatch h), fun h => absurd (h _ (by simp)) hunfit⟩

theorem gather_spec (b : Bundle α) (scanId : String) (ls : List (Lead α)) (h : Hub α) :
    ∃ fs, Gathered b ls (gather b scanId ls h).1 fs ∧
      (gather b scanId ls h).2.now = h.now ∧
      (gather b scanId ls h).2.bus = h.bus.publishAll (eventsOf h.now b.address scanId fs) := by
  induction ls generalizing h with
  | nil => exact ⟨[], .all .nil, rfl, rfl⟩
  | cons l ls ih =>
    unfold gather
    cases hl : l.finding h.supply.next b with
    | error problems =>
      have hunfit : ¬ l.Fit := by
        intro hfit
        have hok : ∃ f, l.finding h.supply.next b = .ok f := Lead.finding_isOk_iff.mpr hfit
        obtain ⟨f, hf⟩ := hok
        rw [hf] at hl
        exact nomatch hl
      dsimp only [Hub.takeId]
      rw [hl]
      exact ⟨[], .upTo (List.nil_append _).symm .nil hunfit, rfl, rfl⟩
    | ok f =>
      obtain ⟨fs, hfs, hnow, hbus⟩ := ih ((h.takeId.2).announce f b scanId)
      dsimp only [Hub.takeId] at hfs hnow hbus ⊢
      rw [hl]
      exact ⟨f :: fs, hfs.cons ⟨_, hl⟩, hnow, hbus⟩

/-! ## the finding of an escalation -/

/-- a severe profile is summed up in one more finding -/
def IsSummary (b : Bundle α) (p : RiskProfile α) (fs : List (Finding α)) : Prop :=
  (p.needsEscalation = true ∧ ∃ id, fs = [Finding.escalation id p b]) ∨
    (p.needsEscalation = false ∧ fs = [])

theorem escalate_spec (b : Bundle α) (scanId : String) (p : RiskProfile α) (fs : List (Finding α))
    (h : Hub α) :
    ∃ summary, IsSummary b p summary ∧ (escalate b scanId p fs h).1 = fs ++ summary ∧
      (escalate b scanId p fs h).2.bus =
        h.bus.publishAll (eventsOf h.now b.address scanId summary) := by
  unfold escalate
  cases hp : p.needsEscalation with
  | true => exact ⟨_, .inl ⟨hp, h.supply.next, rfl⟩, rfl, rfl⟩
  | false => exact ⟨[], .inr ⟨hp, rfl⟩, (List.append_nil fs).symm, rfl⟩

/-! ## whole scans -/

/-- the hub when the patterns have been screened and the detectors are about to be polled -/
def Hub.started (h : Hub α) (b : Bundle α) : Hub α :=
  let c := Context.ofScan h.supply.next b.address
  h.takeId.2.write (startNote c b :: (screen h.registry.patterns b).skipped.map (skipNote c))

/-- what a scan does when its detectors have been asked -/
def finish (timeout : α) (b : Bundle α) (scanId : String) (s : Screening α)
    (asked : List (Asked α)) (h : Hub α) : Except (List Problem) (Report α) × Hub α :=
  let c := Context.ofScan scanId b.address
  match gather b scanId (leads s asked) (h.write (detectorNotes c timeout asked)) with
  | (.error problems, h) => (.error problems, h)
  | (.ok findings, h) =>
    let risk := RiskProfile.ofFindings findings
    let (all, h) := escalate b scanId risk findings h
    (.ok {
      scanId
      address := b.address
      network := b.network
      findings := Finding.rank all
      risk
      escalated := risk.needsEscalation
      skippedPatterns := s.skippedIds
      failedDetectors := failedIds asked },
    h.write [finishNote c all.length risk])

theorem scanWith_eq (timeout : α) (ds : List (Detector α (Hub α))) (b : Bundle α) (h : Hub α) :
    scanWith timeout ds b h = finish timeout b h.supply.next (screen h.registry.patterns b)
      (askAll timeout b ds (h.started b)).1 (askAll timeout b ds (h.started b)).2 := rfl

/-- a report of the findings `fs`, one for each lead, and of the one of an escalation -/
structure Concludes (b : Bundle α) (scanId : String) (s : Screening α) (asked : List (Asked α))
    (fs extra : List (Finding α)) (r : Report α) : Prop where
  made : List.Forall₂ (Lead.Gives b) (leads s asked) fs
  summary : IsSummary b (.ofFindings fs) extra
  findings : r.findings = Finding.rank (fs ++ extra)
  risk : r.risk = .ofFindings fs
  escalated : r.escalated = r.risk.needsEscalation
  skipped : r.skippedPatterns = s.skippedIds
  failed : r.failedDetectors = failedIds asked
  scanId : r.scanId = scanId
  address : r.address = b.address
  network : r.network = b.network

theorem finish_spec (timeout : α) (b : Bundle α) (scanId : String) (s : Screening α)
    (asked : List (Asked α)) (h : Hub α) :
    ∃ fs, (∃ r extra, (finish timeout b scanId s asked h).1 = .ok r ∧
        Concludes b scanId s asked fs extra r ∧
        (finish timeout b scanId s asked h).2.bus =
          h.bus.publishAll (eventsOf h.now b.address scanId (fs ++ extra))) ∨
      ∃ problems, (finish timeout b scanId s asked h).1 = .error problems ∧
        Gathered b (leads s asked) (.error problems) fs ∧
        (finish timeout b scanId s asked h).2.bus =
          h.bus.publishAll (eventsOf h.now b.address scanId fs) := by
  let noted := h.write (detectorNotes (.ofScan scanId b.address) timeout asked)
  obtain ⟨fs, hfs, hnow, hbus⟩ := gather_spec b scanId (leads s asked) noted
  generalize hgather : gather b scanId (leads s asked) noted = gathered at hfs hnow hbus
  obtain ⟨outcome, h'⟩ := gathered
  refine ⟨fs, ?_⟩
  unfold finish
  dsimp only
  rw [hgather]
  cases hfs with
  | all hall =>
    obtain ⟨extra, hsummary, hlist, hevents⟩ := escalate_spec b scanId (.ofFindings fs) fs h'
    refine .inl ⟨_, extra, rfl, ?_, ?_⟩
    · exact {
        made := hall
        summary := hsummary
        findings := congrArg Finding.rank hlist
        risk := rfl
        escalated := rfl
        skipped := rfl
        failed := rfl
        scanId := rfl
        address := rfl
        network := rfl }
    · show (escalate b scanId (.ofFindings fs) fs h').2.bus = _
      dsimp only at hnow hbus
      rw [hevents, hnow, hbus, eventsOf_append, Bus.publishAll_append]
      rfl
  | upTo hls hdone hunfit => exact .inr ⟨_, rfl, .upTo hls hdone hunfit, hbus⟩

/-- a scan that is completed -/
structure Completes (timeout : α) (ds : List (Detector α (Hub α))) (b : Bundle α) (h : Hub α)
    (as : List (Option (Answer α))) (polled : Hub α) (fs extra : List (Finding α))
    (r : Report α) : Prop where
  poll : Poll timeout b ds (h.started b) as polled
  made : List.Forall₂ (Lead.Gives b) (scanLeads b h.registry.patterns ds as) fs
  summary : IsSummary b (.ofFindings fs) extra
  findings : r.findings = Finding.rank (fs ++ extra)
  risk : r.risk = .ofFindings fs
  escalated : r.escalated = r.risk.needsEscalation
  skipped : r.skippedPatterns = (h.registry.patterns.filter (Pattern.breaks b)).map (·.id)
  failed : r.failedDetectors = failures ds as
  scanId : r.scanId = h.supply.next
  address : r.address = b.address
  network : r.network = b.network

/-- what a poll leaves to the rest of a scan: the hub, the leads and the failures -/
theorem askAll_leads {timeout : α} {ds : List (Detector α (Hub α))} {b : Bundle α} {h : Hub α}
    {as : List (Option (Answer α))} {polled : Hub α} (hp : Poll timeout b ds (h.started b) as polled) :
    (askAll timeout b ds (h.started b)).2 = polled ∧
      leads (screen h.registry.patterns b) (askAll timeout b ds (h.started b)).1 =
        scanLeads b h.registry.patterns ds as ∧
      failedIds (askAll timeout b ds (h.started b)).1 = failures ds as := by
  obtain ⟨as', hp', hsignals, hfailed⟩ := askAll_spec timeout b ds (h.started b)
  obtain ⟨rfl, hpolled⟩ := hp'.unique hp
  refine ⟨hpolled, ?_, hfailed⟩
  unfold leads scanLeads
  rw [found_screen, hsignals]

theorem scanWith_spec (timeout : α) (ds : List (Detector α (Hub α))) (b : Bundle α) (h : Hub α) :
    ∃ as polled fs, Poll timeout b ds (h.started b) as polled ∧
      ((∃ r extra, (scanWith timeout ds b h).1 = .ok r ∧
          Completes timeout ds b h as polled fs extra r ∧
          (scanWith timeout ds b h).2.bus = polled.bus.publishAll
            (eventsOf polled.now b.address h.supply.next (fs ++ extra))) ∨
        ∃ problems, (scanWith timeout ds b h).1 = .error problems ∧
          Gathered b (scanLeads b h.registry.patterns ds as) (.error problems) fs ∧
          (scanWith timeout ds b h).2.bus = polled.bus.publishAll
            (eventsOf polled.now b.address h.supply.next fs)) := by
  obtain ⟨as, hpoll, _⟩ := askAll_spec timeout b ds (h.started b)
  obtain ⟨_, hleads, hfailed⟩ := askAll_leads hpoll
  obtain ⟨fs, hcase⟩ := finish_spec timeout b h.supply.next (screen h.registry.patterns b)
    (askAll timeout b ds (h.started b)).1 (askAll timeout b ds (h.started b)).2
  rw [← scanWith_eq] at hcase
  refine ⟨as, _, fs, hpoll, ?_⟩
  rcases hcase with ⟨r, extra, hok, hc, hbus⟩ | ⟨problems, herror, hgathered, hbus⟩
  · refine .inl ⟨r, extra, hok, ?_, hbus⟩
    exact {
      poll := hpoll
      made := hleads ▸ hc.made
      summary := hc.summary
      findings := hc.findings
      risk := hc.risk
      escalated := hc.escalated
      skipped := hc.skipped.trans (skippedIds_screen h.registry.patterns b)
      failed := hc.failed.trans hfailed
      scanId := hc.scanId
      address := hc.address
      network := hc.network }
  · exact .inr ⟨problems, herror, hleads ▸ hgathered, hbus⟩

theorem scanBundle_completes {e : Engine α} {b : Bundle α} {r : Report α}
    (hs : (e.scanBundle b).1 = .ok r) :
    ∃ as polled fs extra, Completes e.timeout e.detectors b e.hub as polled fs extra r := by
  obtain ⟨as, polled, fs, _, hcase⟩ := scanWith_spec e.timeout e.detectors b e.hub
  rcases hcase with ⟨r', extra, hok, hc, _⟩ | ⟨problems, herror, _⟩
  · obtain rfl : r' = r := Except.ok.inj (hok.symm.trans hs)
    exact ⟨as, polled, fs, extra, hc⟩
  · exact absurd (herror.symm.trans hs) (fun h => nomatch h)

theorem scanBundle_concludes {e : Engine α} {b : Bundle α} {r : Report α}
    (hs : (e.scanBundle b).1 = .ok r) :
    ∃ asked fs extra, Concludes b e.hub.supply.next (screen e.hub.registry.patterns b) asked fs
      extra r := by
  have hfinish : (finish e.timeout b e.hub.supply.next (screen e.hub.registry.patterns b)
      (askAll e.timeout b e.detectors (e.hub.started b)).1
      (askAll e.timeout b e.detectors (e.hub.started b)).2).1 = .ok r := hs
  obtain ⟨fs, ⟨r', extra, hok, hc, _⟩ | ⟨problems, herror, _⟩⟩ :=
    finish_spec e.timeout b e.hub.supply.next (screen e.hub.registry.patterns b)
      (askAll e.timeout b e.detectors (e.hub.started b)).1
      (askAll e.timeout b e.detectors (e.hub.started b)).2
  · obtain rfl : r' = r := Except.ok.inj (hok.symm.trans hfinish)
    exact ⟨_, fs, extra, hc⟩
  · exact nomatch hfinish.symm.trans herror

/-! ## what is scanned -/

/-- a scan is given a bundle, or something to read one from -/
inductive Subject (α : Type) where
  | source (s : BundleSource)
  | bundle (b : Bundle α)

def Subject.bundle? : Subject α → Except BundleError (Bundle α)
  | source s => Bundle.forScan s
  | bundle b => .ok b

def Engine.scanSubject (e : Engine α) : Subject α → Except ScanFault (Report α) × Engine α
  | .source s => e.scan s
  | .bundle b => ((e.scanBundle b).1.mapError .finding, (e.scanBundle b).2)

theorem Engine.scanSubject_of_error {e : Engine α} {s : Subject α} {f : BundleError}
    (h : s.bundle? = .error f) : e.scanSubject s = (.error (.bundle f), e) := by
  cases s with
  | source s =>
    show e.scan s = _
    unfold Engine.scan
    rw [show Bundle.forScan s = .error f from h]
  | bundle b => exact nomatch h

theorem Engine.scanSubject_of_ok {e : Engine α} {s : Subject α} {b : Bundle α}
    (h : s.bundle? = .ok b) :
    e.scanSubject s = ((e.scanBundle b).1.mapError .finding, (e.scanBundle b).2) := by
  cases s with
  | source s =>
    show e.scan s = _
    unfold Engine.scan
    rw [show Bundle.forScan s = .ok b from h]
  | bundle b' => cases h; rfl

theorem Engine.scanSubject_eq_ok {e : Engine α} {s : Subject α} {r : Report α}
    (hs : (e.scanSubject s).1 = .ok r) :
    ∃ b, s.bundle? = .ok b ∧ (e.scanBundle b).1 = .ok r := by
  cases hb : s.bundle? with
  | error f =>
    rw [Engine.scanSubject_of_error hb] at hs
    exact nomatch hs
  | ok b =>
    rw [Engine.scanSubject_of_ok hb] at hs
    exact ⟨b, rfl, mapError_eq_ok.mp hs⟩

/-! ## a small engine -/

theorem exists_eq_ok {ε β : Type} {x : Except ε β} (h : x.isOk = true) : ∃ a, x = .ok a := by
  cases x with
  | error e => exact nomatch h
  | ok a => exact ⟨a, rfl⟩

namespace Sample

def bundle : Bundle α := ⟨"0x1", "ethereum", none, none, none, none, none, none, none⟩

/-- a pattern that shows nothing but its identifier -/
def pattern (id : String) (severity : Severity) (check : Bundle α → Except Fault Verdict) :
    Pattern α where
  id
  name := .text id
  description := .text ""
  severity
  confidence := 80
  category := .honeypot
  condition := .predicate ⟨id, check⟩
  indicators := []
  mitigation := .text ""
  referenceId := .null
  references := []
  version := .whole 1

def patterns (qs : List (String × Severity × (Bundle α → Except Fault Verdict))) :
    List (Pattern α) := qs.map fun q => pattern q.1 q.2.1 q.2.2

/-- a detector that always applies and gives the same reply -/
def detector (id : String) (threshold riskScale : α) (reply : Reply α) : Detector α (Hub α) where
  id
  name := .text id
  description := .text ""
  category := .mintAbuse
  severity := .high
  threshold
  riskScale
  indicators := []
  mitigation := .text ""
  applies _ := .ok true
  analyze _ h := (reply, h)

/-- an engine with no subscribers that has not scanned yet -/
def engine (ps : List (Pattern α)) (ds : List (Detector α (Hub α))) : Engine α where
  timeout := Scalar.ofInt 1
  detectors := ds
  hub := ⟨⟨ps⟩, .ofStandard 0, ⟨Text.natText, 0⟩, Scalar.ofInt 0, []⟩

omit [Scalar α] in
theorem define_pattern {id : String} (h : checkId (.text id) = .ok id) (severity : Severity)
    (check : Bundle α → Except Fault Verdict) :
    Pattern.define (pattern id severity check).toDraft = .ok (pattern id severity check) := by
  refine Pattern.define_eq_ok_iff.mpr ?_
  exact {
    id := h
    confidence := rfl
    version := rfl
    condition := rfl
    severity := severityOf_name severity
    category := rfl
    indicators := rfl
    references := rfl
    name := rfl
    description := rfl
    mitigation := rfl
    referenceId := rfl }

omit [Scalar α] in
theorem reachable_patterns (qs : List (String × Severity × (Bundle α → Except Fault Verdict)))
    (hids : (qs.map (·.1)).Nodup) (hchecks : ∀ q ∈ qs, checkId (.text q.1) = .ok q.1) :
    Registry.Reachable ⟨patterns qs⟩ := by
  refine Registry.reachable_of_nodup ?_ fun p hp => ?_
  · unfold patterns
    rw [List.map_map]
    exact hids
  · obtain ⟨q, hq, rfl⟩ := List.mem_map.mp hp
    exact ⟨_, define_pattern (hchecks q hq) q.2.1 q.2.2⟩

end Sample

end ContractRisk
