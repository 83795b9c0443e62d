import ContractRisk.CommandLine.Session
import ContractRisk.Proofs.CommandLine.Listing
import ContractRisk.Proofs.Notification.Dispatch
import ContractRisk.Proofs.Scan.Publication

/-!
# What a session does with a report

`Session.Reports` says that a scan request comes to a report: the settings are valid, there is a bundle to
read and an engine to scan it, and the scan is completed. The session then shows the report and posts the
events that wait (`Session.ending`):

* `scanWith_ending`    what waits are the events of the findings in the order in which they were made, as
  many as the queue has room for;
* `run_ending`         how the session ends, for every choice of what is shown and how.

The detectors of a session answer by the bundle alone (`Detector.Pure`), so a report is the same with and
without a queue for its events.
-/

namespace ContractRisk

open CommandLine
open Text.Utf8 (bytes_append bytes_ofList)

variable {α : Type} [Scalar α]

/-! ## the engine of a session -/

omit [Scalar α] in
theorem Detector.Pure.aloof {d : Detector α (Hub α)} (h : d.Pure) (b : Bundle α) : d.Aloof b := by
  obtain ⟨reply, hreply⟩ := h
  intro k k' halike
  rw [hreply, hreply]
  exact ⟨rfl, halike⟩

/-- an engine as a session makes it from its settings -/
structure Engine.Fresh (e : Engine α) (x : Settings α) (now : α) : Prop where
  bus : e.hub.bus = .ofStandard x.eventQueueSize
  now : e.hub.now = now
  pure : ∀ d ∈ e.detectors, d.Pure

theorem Engine.fresh_of_ofSettings {x : Settings α} {files : FileTree} {supply : Supply} {now : α}
    {r : Registry α} {m : Machine} {e : Engine α}
    (h : (ofSettings x none files supply now r m).1 = .ok e) :
    e.Fresh x now := by
  unfold ofSettings at h
  split at h
  · exact nomatch h
  · obtain rfl := Except.ok.inj h
    refine ⟨rfl, rfl, fun d hd => ?_⟩
    have hd : d ∈ detectorsOf x := hd
    unfold detectorsOf at hd
    split at hd
    · exact Detector.standard_pure d hd
    · exact nomatch hd

theorem checkCount_eq_ok {path : List String} {v : Value} {i : Int}
    (h : Settings.checkCount path v = .ok i) : 1 ≤ i := by
  unfold Settings.checkCount at h
  cases hv : Check.integer path v with
  | error p =>
    rw [hv] at h
    exact nomatch h
  | ok j =>
    rw [hv] at h
    dsimp only at h
    by_cases hj : j < 1
    · exact nomatch (if_pos hj).symm.trans h
    · obtain rfl : j = i := Except.ok.inj ((if_neg hj).symm.trans h)
      exact not_lt.mp hj

/-- the fields of settings that are checked for more than their type -/
theorem Settings.checked_of_ofFields {fs : Fields} {x : Settings α} (h : ofFields fs = .ok x) :
    Check.field fs [] ["app_env"] (.ok "development")
        (Check.among appEnvs fun s => appEnvs.find? (· == s)) = .ok x.appEnv ∧
      Check.field fs [] ["detector_timeout_seconds"] (.ok (5.0 : α)) checkPositive =
        .ok x.detectorTimeout ∧
      Check.field fs [] ["event_queue_size"] (.ok 1000) checkCount = .ok x.eventQueueSize := by
  unfold ofFields at h
  simp only [Check.seq_eq_ok, Check.map_eq_ok] at h
  obtain ⟨_, ⟨_, ⟨_, ⟨_, ⟨_, ⟨_, ⟨_, ⟨_, ⟨_, ⟨_, ⟨_, ⟨_, _, rfl⟩, _, henv, rfl⟩, _, _, rfl⟩, _, _, rfl⟩,
    _, htime, rfl⟩, _, _, rfl⟩, _, hsize, rfl⟩, _, _, rfl⟩, _, _, rfl⟩, _, _, rfl⟩, _, _, rfl⟩,
    _, _, rfl⟩ := h
  exact ⟨henv, htime, hsize⟩

theorem Settings.one_le_eventQueueSize {fs : Fields} {x : Settings α} (h : ofFields fs = .ok x) :
    1 ≤ x.eventQueueSize := by
  obtain ⟨-, -, hsize⟩ := checked_of_ofFields h
  rcases Check.field_eq_ok hsize with habsent | ⟨_, _, _, hcount⟩
  · rw [← Except.ok.inj habsent]
    decide
  · exact checkCount_eq_ok hcount

/-! ## the events that wait after a scan -/

/-- the findings of a report in the order in which they were made -/
structure Report.Made (e : Engine α) (source : BundleSource) (report : Report α)
    (made : List (Finding α)) : Prop where
  parts : ∃ b as rules signals summary, Bundle.forScan source = .ok b ∧
    Poll e.timeout b e.detectors (e.hub.started b) as (e.hub.started b) ∧
    Expected b e.hub.registry.patterns e.detectors as rules signals summary ∧
    made = rules ++ signals ++ summary
  findings : report.findings = Finding.rank made

theorem Engine.scan_eq_ok {e : Engine α} {source : BundleSource} {report : Report α}
    (h : (e.scan source).1 = .ok report) :
    ∃ b, Bundle.forScan source = .ok b ∧ (e.scanBundle b).1 = .ok report :=
  Engine.scanSubject_eq_ok (s := .source source) h

/-- a queue on the bus changes nothing in the report, and holds the first events -/
theorem Engine.Fresh.scan_waiting {e : Engine α} {x : Settings α} {now : α} (he : e.Fresh x now)
    (hsize : 1 ≤ x.eventQueueSize) {source : BundleSource} {report : Report α}
    (h : (e.scan source).1 = .ok report) :
    ∃ made queue, report.Made e source made ∧
      ((e.withBus (e.hub.bus.subscribe none).2).scan source).1 = .ok report ∧
      ((e.withBus (e.hub.bus.subscribe none).2).scan source).2.hub.bus.queue? 0 = some queue ∧
      queue.pending = (eventsOf now report.address report.scanId made).take
        x.eventQueueSize.toNat := by
  obtain ⟨b, hb, hok⟩ := Engine.scan_eq_ok h
  have hsubject : (Subject.source source : Subject α).bundle? = .ok b := hb
  obtain ⟨as, polled, fs, extra, hcompletes⟩ := scanBundle_completes hok
  obtain rfl := hcompletes.poll.eq_of_pure he.pure
  -- the scan with the queue polls the detectors in the same way
  let bus := (e.hub.bus.subscribe none).2
  have haloof : ∀ d ∈ e.detectors, d.Aloof b := fun d hd => (he.pure d hd).aloof b
  obtain ⟨polled, hpoll, -⟩ := hcompletes.poll.alike haloof
    (⟨rfl, rfl, rfl⟩ : (e.hub.started b).Alike ((e.withBus bus).hub.started b))
  obtain rfl := hpoll.eq_of_pure he.pure
  have hreport : ((e.withBus bus).scanSubject (.source source)).1 = .ok report :=
    (Engine.scanSubject_withBus bus hsubject hcompletes.poll hpoll rfl).trans h
  obtain ⟨as', polled', fs', hpoll', hcase⟩ :=
    scanWith_spec (e.withBus bus).timeout (e.withBus bus).detectors b (e.withBus bus).hub
  obtain ⟨rfl, rfl⟩ := hpoll'.unique hpoll
  have hscan := Engine.scanSubject_of_ok (e := e.withBus bus) hsubject
  have hok' : ((e.withBus bus).scanBundle b).1 = .ok report := by
    rw [hscan] at hreport
    exact mapError_eq_ok.mp hreport
  rcases hcase with ⟨r', extra', hr', hc, hbus⟩ | ⟨problems, herror, _⟩
  · obtain rfl : r' = report := Except.ok.inj (hr'.symm.trans hok')
    obtain ⟨rules, signals, rfl, hexpected⟩ := hc.expected
    have hevents : ((e.withBus bus).scan source).2.hub.bus.queues =
        [(Queue.ofBound x.eventQueueSize).hearAll
          (eventsOf now r'.address r'.scanId (rules ++ signals ++ extra'))] := by
      have hqueues : bus.queues = [.ofBound x.eventQueueSize] := by
        show (e.hub.bus.subscribe none).2.queues = _
        rw [he.bus]
        rfl
      show ((e.withBus bus).scanSubject (.source source)).2.hub.bus.queues = _
      rw [hscan]
      show (scanWith _ _ b (e.withBus bus).hub).2.bus.queues = _
      rw [hbus, publishAll_queues, hc.address, hc.scanId]
      show bus.queues.map _ = _
      rw [hqueues, ← he.now]
      rfl
    refine ⟨rules ++ signals ++ extra', _,
      ⟨⟨b, as', rules, signals, extra', hb, hcompletes.poll, hexpected, rfl⟩, hc.findings⟩,
      hreport, (congrArg (·[0]?) hevents).trans rfl, ?_⟩
    rw [Queue.hearAll_of_bounded _ rfl (Int.lt_of_lt_of_le Int.zero_lt_one hsize)]
    exact List.nil_append _
  · exact nomatch herror.symm.trans hok'

namespace CommandLine.Session

variable {s : Surroundings α} {x : Settings α}

theorem engine_fresh {e : Engine α} (h : engine s x = .ok (.ok e)) : e.Fresh x s.now := by
  unfold engine at h
  split at h
  · next e' he =>
    obtain rfl := Except.ok.inj (Except.ok.inj h)
    exact Engine.fresh_of_ofSettings he
  · split at h <;> exact nomatch h

theorem exists_fields_of_settings (h : settings s = .ok x) : ∃ fs, Settings.ofFields fs = .ok x := by
  unfold settings at h
  split at h
  · exact nomatch h
  · split at h
    · exact nomatch h
    · next hx =>
      obtain rfl := Except.ok.inj h
      exact ⟨_, hx⟩

theorem settings_eventQueueSize (h : settings s = .ok x) : 1 ≤ x.eventQueueSize := by
  obtain ⟨fs, hfs⟩ := exists_fields_of_settings h
  exact Settings.one_le_eventQueueSize hfs

/-- what a request puts in the place of settings has no bearing on events and webhooks -/
theorem overridden_events (r : ScanRequest) (x : Settings α) :
    (overridden r x).eventQueueSize = x.eventQueueSize ∧
      Webhook.ofSettings (overridden r x) = Webhook.ofSettings x := by
  unfold overridden
  dsimp only
  split <;> split <;> split <;> (try split) <;> exact ⟨rfl, rfl⟩

/-! ## how a session ends -/

/-- what is shown of a report -/
def shown (r : ScanRequest) (report : Report α) : List (Finding α) :=
  Finding.select (r.floor.map Severity.name) r.limit report.findings

/-- what keeps a report from being shown: as JSON, its metadata; as a table, a surrogate in what is shown of
one of the patterns `ps` -/
inductive Blocked (r : ScanRequest) (quiet : Bool) (ps : List (Pattern α)) (report : Report α) :
    ReportFault → Prop
  | unlisted {fault : DocumentFault} (hformat : r.format = .json)
    (hfault : report.Unlisted (shown r report) fault) : Blocked r quiet ps report (.document fault)
  | finding {p : Pattern α} {f : Finding α} {t : String} (hformat : r.format = .table) (hp : p ∈ ps)
    (hf : f ∈ shown r report) (hsource : f.source = .rule) (hid : f.patternId = p.id)
    (ht : t ∈ Report.patternTexts quiet p) (hsurrogate : Text.hasSurrogate t = true) :
    Blocked r quiet ps report .surrogate
  | skipped {p : Pattern α} (hformat : r.format = .table) (hp : p ∈ ps) (hquiet : quiet = false)
    (hid : p.id ∈ report.skippedPatterns) (hsurrogate : Text.hasSurrogate p.id = true) :
    Blocked r quiet ps report .surrogate

variable {r : ScanRequest} {quiet : Bool} {ps : List (Pattern α)} {report : Report α}

omit [Scalar α] in
theorem showsSurrogate_iff (hformat : r.format = .table) :
    report.showsSurrogate ps (shown r report) quiet = true ↔ Blocked r quiet ps report .surrogate := by
  unfold Report.showsSurrogate
  rw [List.any_eq_true]
  simp only [Bool.or_eq_true, Bool.and_eq_true, List.any_eq_true, beq_iff_eq, Bool.not_eq_true',
    List.contains_iff_mem]
  constructor
  · rintro ⟨p, hp, ⟨⟨t, ht, hsurrogate⟩, f, hf, hsource, hid⟩ | ⟨⟨hsurrogate, hquiet⟩, hid⟩⟩
    · exact .finding hformat hp hf hsource hid ht hsurrogate
    · exact .skipped hformat hp hquiet hid hsurrogate
  · intro h
    cases h with
    | finding _ hp hf hsource hid ht hsurrogate =>
      exact ⟨_, hp, .inl ⟨⟨_, ht, hsurrogate⟩, _, hf, hsource, hid⟩⟩
    | skipped _ hp hquiet hid hsurrogate => exact ⟨_, hp, .inr ⟨⟨hsurrogate, hquiet⟩, hid⟩⟩

/-- a report is shown, unless something keeps it from that -/
theorem reportText_cases (r : ScanRequest) (quiet : Bool) (elapsed : α) (ps : List (Pattern α))
    (report : Report α) :
    (∃ fault, reportText r quiet elapsed ps report (shown r report) = .error fault ∧
      Blocked r quiet ps report fault) ∨
    ∃ text, reportText r quiet elapsed ps report (shown r report) = .ok text ∧
      ∀ fault, ¬ Blocked r quiet ps report fault := by
  unfold reportText
  cases hformat : r.format with
  | json =>
    have hshown := Finding.select_subset r.floor r.limit report.findings
    rcases report.listing_cases elapsed hshown with ⟨fault, hfault, hunlisted⟩ | ⟨text, htext, hlisted⟩
    · exact .inl ⟨.document fault, congrArg (Except.mapError _) hfault, .unlisted hformat hunlisted⟩
    · refine .inr ⟨text, congrArg (Except.mapError _) htext, fun fault hblocked => ?_⟩
      cases hblocked with
      | unlisted _ hunlisted => exact hlisted _ hunlisted
      | finding htable => exact nomatch hformat.symm.trans htable
      | skipped htable => exact nomatch hformat.symm.trans htable
  | table =>
    have hiff : report.showsSurrogate ps (shown r report) quiet = true ↔ Blocked r quiet ps report .surrogate :=
      showsSurrogate_iff hformat
    dsimp only
    split
    · next hshows => exact .inl ⟨_, rfl, hiff.mp hshows⟩
    · next hplain =>
      refine .inr ⟨_, rfl, fun fault hblocked => ?_⟩
      cases hblocked with
      | unlisted hjson => exact nomatch hformat.symm.trans hjson
      | finding _ hp hf hsource hid ht hsurrogate =>
        exact hplain (hiff.mpr (.finding hformat hp hf hsource hid ht hsurrogate))
      | skipped _ hp hquiet hid hsurrogate =>
        exact hplain (hiff.mpr (.skipped hformat hp hquiet hid hsurrogate))

omit [Scalar α] in
/-- a table of what plain patterns have found is always shown -/
theorem not_blocked_of_plain (hformat : r.format = .table) (hps : ∀ p ∈ ps, p.Plain)
    (fault : ReportFault) : ¬ Blocked r quiet ps report fault := by
  intro hblocked
  cases hblocked with
  | unlisted hjson => exact nomatch hformat.symm.trans hjson
  | finding _ hp _ _ _ ht hsurrogate => exact nomatch (hps _ hp quiet _ ht).symm.trans hsurrogate
  | @skipped p _ hp _ _ hsurrogate =>
    exact nomatch (hps p hp true p.id List.mem_cons_self).symm.trans hsurrogate

/-- the end of a session that has a report; `told` says whether there are webhooks, and `relayed` how many
events they accepted and what was posted -/
def ending (s : Surroundings α) (r : ScanRequest) (quiet : Bool) (ps : List (Pattern α))
    (report : Report α) (told : Bool) (relayed : Nat × List (Post α)) :
    Except SessionFault (Transcript α) :=
  match reportText r quiet s.elapsed ps report (shown r report) with
  | .error fault => .error (.report fault)
  | .ok text =>
    let tail := if told && !quiet && r.format = .table then sentLine relayed.1 else ""
    .ok ⟨.returned (codeOf (shown r report)), text ++ tail, "", relayed.2⟩

/-- a session with a report fails if something keeps the report from being shown, and only then -/
theorem ending_cases (s : Surroundings α) (r : ScanRequest) (quiet : Bool) (ps : List (Pattern α))
    (report : Report α) (told : Bool) (relayed : Nat × List (Post α)) :
    (∃ fault, ending s r quiet ps report told relayed = .error (.report fault) ∧
      Blocked r quiet ps report fault) ∨
    ∃ text, ending s r quiet ps report told relayed =
      .ok ⟨.returned (codeOf (shown r report)),
        text ++ (if told && !quiet && r.format = .table then sentLine relayed.1 else ""), "",
        relayed.2⟩ ∧
      ∀ fault, ¬ Blocked r quiet ps report fault := by
  unfold ending
  rcases reportText_cases r quiet s.elapsed ps report with ⟨fault, hfault, hblocked⟩ | ⟨text, htext, hfree⟩
  · rw [hfault]
    exact .inl ⟨fault, rfl, hblocked⟩
  · rw [htext]
    exact .inr ⟨text, rfl, hfree⟩

theorem scanWith_of_scan {r : ScanRequest} {quiet : Bool} {text : String} {report : Report α}
    {e e' e'' : Engine α} {handle : Option Nat}
    (hsubscribed : subscribed e (Webhook.ofSettings x) = (handle, e'))
    (hscan : e'.scan (.text text) = (.ok report, e'')) :
    scanWith s r quiet text x e = ending s r quiet e.hub.registry.patterns report handle.isSome
      ((handle.map (relayed s e'' (Webhook.ofSettings x))).getD (0, [])) := by
  unfold scanWith ending shown
  cases htext : reportText r quiet s.elapsed e.hub.registry.patterns report
    (Finding.select (r.floor.map Severity.name) r.limit report.findings) <;>
  simp only [hsubscribed, hscan, htext]

theorem notifyAll_no_webhooks (net : Network α) (es : List (Event α)) (o : Outbox α) :
    notifyAll net [] es o = (0, o) := by
  induction es with
  | nil => rfl
  | cons e es ih =>
    show ((0 : Nat) + (notifyAll net [] es o).1, (notifyAll net [] es o).2) = _
    rw [ih, Nat.zero_add]

/-- **A scan with a report.** The events that wait are those of the findings in the order in which they
were made, as many as the queue has room for, whatever is shown of the report. -/
theorem scanWith_ending {e : Engine α} (he : e.Fresh x s.now) (hsize : 1 ≤ x.eventQueueSize)
    {text : String} {report : Report α} (h : (e.scan (.text text)).1 = .ok report) :
    ∃ made, report.Made e (.text text) made ∧ ∀ r quiet,
      let waiting := (eventsOf s.now report.address report.scanId made).take x.eventQueueSize.toNat
      let notified := notifyAll s.network (Webhook.ofSettings x) waiting .empty
      scanWith s r quiet text x e = ending s r quiet e.hub.registry.patterns report
        (!(Webhook.ofSettings x).isEmpty) (notified.1, notified.2.posts) := by
  obtain ⟨made, queue, hmade, hreport, hqueue, hpending⟩ := he.scan_waiting hsize h
  refine ⟨made, hmade, fun r quiet => ?_⟩
  dsimp only
  rw [← hpending]
  cases hws : (Webhook.ofSettings x).isEmpty with
  | true =>
    have hsubscribed : subscribed e (Webhook.ofSettings x) = (none, e) := if_pos hws
    rw [scanWith_of_scan hsubscribed (Prod.ext h rfl : _ = (_, _)), List.isEmpty_iff.mp hws,
      notifyAll_no_webhooks]
    rfl
  | false =>
    have hhandle : e.hub.bus.queues.length = 0 := by
      rw [he.bus]
      rfl
    have hsubscribed : subscribed e (Webhook.ofSettings x) =
        (some 0, e.withBus (e.hub.bus.subscribe none).2) := by
      rw [← hhandle]
      exact if_neg (Bool.eq_false_iff.mp hws)
    rw [scanWith_of_scan hsubscribed (Prod.ext hreport rfl : _ = (_, _)), Option.map_some,
      Option.getD_some, relayed, hqueue]
    rfl

/-! ## requests that come to a report -/

/-- with valid settings, a bundle that can be read and an engine, the scan that is asked for comes to a
report -/
structure Reports (s : Surroundings α) (x : Settings α) (r : ScanRequest) (text : String)
    (e : Engine α) (report : Report α) : Prop where
  hasSettings : settings s = .ok x
  hasText : bundleText s r.bundle = .ok (.ok text)
  hasEngine : engine s (overridden r x) = .ok (.ok e)
  completes : (e.scan (.text text)).1 = .ok report

/-- two requests for the same scan, which may be shown in different ways -/
structure SameScan (r r' : ScanRequest) : Prop where
  bundle : r'.bundle = r.bundle
  timeout : r'.timeout = r.timeout
  rulesOnly : r'.rulesOnly = r.rulesOnly
  patterns : r'.patterns = r.patterns

theorem SameScan.overridden_eq {r r' : ScanRequest} (h : SameScan r r') (x : Settings α) :
    overridden r' x = overridden r x := by
  unfold overridden
  rw [h.timeout, h.rulesOnly, h.patterns]

variable {r r' : ScanRequest} {text : String} {e : Engine α} {report : Report α}

theorem Reports.of_sameScan (h : Reports s x r text e report) (hsame : SameScan r r') :
    Reports s x r' text e report where
  hasSettings := h.hasSettings
  hasText := hsame.bundle ▸ h.hasText
  hasEngine := hsame.overridden_eq x ▸ h.hasEngine
  completes := h.completes

theorem run_eq_scan (hsettings : settings s = .ok x) {line : List String} {quiet : Bool}
    (hline : Invocation.read line = .ok ⟨false, quiet, some (.scan r)⟩) :
    run s line = scan s r quiet x := by
  unfold run
  rw [hline]
  show Except.bind (Session.settings s) _ = _
  rw [hsettings]
  rfl

theorem scan_of_text (htext : bundleText s r.bundle = .ok (.ok text))
    (hengine : engine s (overridden r x) = .ok (.ok e)) (quiet : Bool) :
    scan s r quiet x = scanWith s r quiet text (overridden r x) e := by
  unfold scan
  show Except.bind (bundleText s r.bundle) _ = _
  rw [htext]
  show Except.bind (Session.engine s (overridden r x)) _ = _
  rw [hengine]
  rfl

theorem run_of_reports (h : Reports s x r text e report) {line : List String} {quiet : Bool}
    (hline : Invocation.read line = .ok ⟨false, quiet, some (.scan r)⟩) :
    run s line = scanWith s r quiet text (overridden r x) e :=
  (run_eq_scan h.hasSettings hline).trans (scan_of_text h.hasText h.hasEngine quiet)

/-- **How a session with a report ends.** What is asked to be shown decides about the text and the code
alone. -/
theorem run_ending (h : Reports s x r text e report) :
    ∃ made, report.Made e (.text text) made ∧
      ∀ r' quiet line, SameScan r r' →
        Invocation.read line = .ok ⟨false, quiet, some (.scan r')⟩ →
        let waiting := (eventsOf s.now report.address report.scanId made).take x.eventQueueSize.toNat
        let notified := notifyAll s.network (Webhook.ofSettings x) waiting .empty
        run s line = ending s r' quiet e.hub.registry.patterns report
          (!(Webhook.ofSettings x).isEmpty) (notified.1, notified.2.posts) := by
  obtain ⟨hsize, hwebhooks⟩ := overridden_events r x
  have hfresh := engine_fresh h.hasEngine
  have hpositive : 1 ≤ (overridden r x).eventQueueSize :=
    hsize ▸ settings_eventQueueSize h.hasSettings
  obtain ⟨made, hmade, hending⟩ := scanWith_ending hfresh hpositive h.completes
  refine ⟨made, hmade, fun r' quiet line hsame hline => ?_⟩
  rw [hsize, hwebhooks] at hending
  rw [run_of_reports (h.of_sameScan hsame) hline, hsame.overridden_eq]
  exact hending r' quiet

end CommandLine.Session

/-! ## a session -/

/-- the findings of a scan before they are ranked -/
def Engine.unranked (e : Engine α) (b : Bundle α) :
    Except (List Problem) (List (Finding α)) :=
  let c := Context.ofScan e.hub.supply.next b.address
  let (asked, h) := askAll e.timeout b e.detectors (e.hub.started b)
  let (found, h) := gather b e.hub.supply.next (leads (screen e.hub.registry.patterns b) asked)
    (h.write (detectorNotes c e.timeout asked))
  found.map fun fs => (escalate b e.hub.supply.next (.ofFindings fs) fs h).1

/-- the findings of a report are these, ranked, and a scan fails where they cannot be made -/
theorem Engine.map_findings_scanBundle (e : Engine α) (b : Bundle α) :
    (e.scanBundle b).1.map (·.findings) = (e.unranked b).map Finding.rank := by
  show (finish e.timeout b e.hub.supply.next (screen e.hub.registry.patterns b)
    (askAll e.timeout b e.detectors (e.hub.started b)).1
    (askAll e.timeout b e.detectors (e.hub.started b)).2).1.map _ = _
  unfold finish unranked
  dsimp only
  generalize gather b e.hub.supply.next _ _ = gathered
  obtain ⟨_ | fs, hub⟩ := gathered <;> rfl

/-- that a scan comes to a report, and what the report lists, can be told before the findings are ranked -/
theorem Engine.scan_of_any {e : Engine α} {source : BundleSource} {p : List (Finding α) → Bool}
    (h : (Bundle.forScan source).toOption.any (fun b => (e.unranked b).toOption.any p) = true) :
    ∃ r fs, (e.scan source).1 = .ok r ∧ p fs = true ∧ r.findings = Finding.rank fs := by
  obtain ⟨b, hb, h⟩ := exists_ok_of_any h
  obtain ⟨fs, hfs, hp⟩ := exists_ok_of_any h
  have hfindings := e.map_findings_scanBundle b
  rw [hfs] at hfindings
  obtain ⟨r, hr, hranked⟩ := map_eq_ok_iff.mp hfindings
  have hscan := Engine.scanSubject_of_ok (e := e) (s := .source source) hb
  rw [hr] at hscan
  exact ⟨r, fs, congrArg Prod.fst hscan, hp, hranked⟩

namespace Sample

/-- a contract whose promotion looks bought: a rule of high severity finds the team suspect, but a detector
of medium severity comes first by risk score -/
def promotion : String :=
  "\x7b\"address\": \"0xabc\", \"network\": \"eth\", \"socialMetrics\": \x7b\"team\": " ++
    "\x7b\"stockPhotosDetected\": 1, \"linkedinProfilesValid\": 10\x7d, " ++
    "\"botFollowerPercentage\": 80, \"coordinatedPostingScore\": 80, \"organicGrowthScore\": 20\x7d\x7d"

/-- a session that gets the bundle from its standard input -/
def session («variables» : List (String × String)) (network : Network Float) : Surroundings Float where
  files := fun _ => .error .missing
  «variables»
  input := promotion
  network
  supply := ⟨Text.natText, 0⟩
  now := 0
  elapsed := 0

/-- the standard settings but for two addresses -/
def settings (slackUrl discordUrl : String) : Settings Float :=
  ⟨"threatscan", "development", "INFO", true, 5.0, "", 1000, slackUrl, discordUrl, "", .high, 10.0⟩

def builtIn : Engine Float :=
  ⟨5.0, Detector.standard, ⟨⟨Catalog.patterns⟩, .ofStandard 1000, ⟨Text.natText, 0⟩, 0, []⟩⟩

/-- the request for a table of the findings at or above a floor, as many as the limit says -/
def request (floor : Option Severity) (limit : Int) : ScanRequest :=
  ⟨"-", floor, .table, limit, none, false, none⟩

/-- what a scan finds: one finding at or above the floor of the webhooks, which another one surpasses in its
risk score -/
def Found (fs : List (Finding Float)) : Prop :=
  (fs.filter (·.severity.atLeast .high)).map (·.severity) = [.high] ∧ fs.length ≤ 1000 ∧
    (∀ f ∈ fs, f.severity.atLeast .high = true → ∃ g ∈ fs, f.riskScore < g.riskScore) ∧
    ∀ f ∈ fs, f.riskScore.isNaN = false

instance (fs : List (Finding Float)) : Decidable (Found fs) :=
  inferInstanceAs (Decidable (_ ∧ _ ∧ _ ∧ _))

/-- ranking changes neither how many findings there are nor how many are wanted -/
theorem Found.length_ranked {fs gs : List (Finding Float)} (h : Found fs) (hgs : gs = Finding.rank fs) :
    gs.length ≤ 1000 ∧ (gs.filter (·.severity.atLeast .high)).length = 1 := by
  obtain ⟨hwanted, hroom, -⟩ := h
  have hperm : gs.Perm fs := hgs ▸ Finding.rank_perm fs
  have hone : (fs.filter (·.severity.atLeast .high)).length = 1 :=
    (List.length_map (·.severity)).symm.trans (congrArg List.length hwanted)
  exact ⟨hperm.length_eq ▸ hroom, (hperm.filter _).length_eq.trans hone⟩

/-- the time of the session can be told -/
theorem exists_stamp : ∃ stamp, timestamp (0 : Float) = .ok stamp := exists_eq_ok (by decide +kernel)

theorem reports {vs : List (String × String)} {network : Network Float} {slackUrl discordUrl : String}
    (hsettings : Session.settings (session vs network) = .ok (settings slackUrl discordUrl))
    (floor : Option Severity) (limit : Int) :
    ∃ report fs, Session.Reports (session vs network) (settings slackUrl discordUrl)
      (request floor limit) promotion builtIn report ∧ Found fs ∧
      report.findings = Finding.rank fs := by
  have hfound : (Bundle.forScan (.text promotion)).toOption.any (fun b =>
      (builtIn.unranked b).toOption.any fun fs => Found fs) = true := by
    show (Bundle.ofJson (Text.Utf8.bytes promotion) : Except BundleError (Bundle Float)).toOption.any _ =
      true
    unfold promotion
    rw [bytes_append, bytes_append, bytes_ofList, bytes_ofList, bytes_ofList]
    decide +kernel
  obtain ⟨report, fs, hreport, hfs, hranked⟩ := Engine.scan_of_any hfound
  exact ⟨report, fs, ⟨hsettings, if_pos rfl, rfl, hreport⟩, of_decide_eq_true hfs, hranked⟩

end Sample

end ContractRisk
