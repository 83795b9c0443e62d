import ContractRisk.Proofs.CommandLine.ExitCode
import ContractRisk.Proofs.CommandLine.Presentation
import ContractRisk.Proofs.Pattern.File
import ContractRisk.Proofs.Scan.Announcement

/-!
# How a scan from the command line ends

With valid settings, the built-in patterns alone and no webhooks, it is the file of the bundle that decides
how a scan ends (`Ends`). If the file holds a bundle, there is a report and the code is 0 or 1. If it holds
none, or cannot be read, the session complains and the code is 2. But reading a file breaks the session if
its bytes are no text, or if its path holds a zero character:

* `run_outcome`   what a scan comes to, for every file tree and every path.
-/

namespace ContractRisk.CommandLine.Session

variable {α : Type} [Scalar α]

/-! ## the bundle -/

/-- reading the path gives this text -/
inductive Gives (s : Surroundings α) (path : String) : String → Prop
  | input : path = "-" → Gives s path s.input
  | file {bytes : List UInt8} {cs : List Char} : path ≠ "-" → s.files.Holds path bytes →
      Text.Utf8.decode bytes = .ok cs → Gives s path (String.ofList (Text.unifyBreaks cs))

/-- there is nothing at the path that could be read -/
def Unreadable (s : Surroundings α) (path : String) : Prop :=
  path ≠ "-" ∧ '\x00' ∉ path.toList ∧ ∃ f, s.files path = .error f

/-- what is read is no bundle -/
def NoBundle (s : Surroundings α) (path : String) : Prop :=
  ∃ text problems, Gives s path text ∧
    (Bundle.forScan (.text text) : Except BundleError (Bundle α)) = .error (.invalid problems)

/-- reading the path breaks a session: the bytes of the file are no text, or there is no such path -/
def Breaks (s : Surroundings α) (path : String) : Prop :=
  path ≠ "-" ∧ ('\x00' ∈ path.toList ∨
    ∃ bytes, s.files.Holds path bytes ∧ (Text.Utf8.decode bytes).isOk = false)

section
variable {s : Surroundings α} {path text : String}

omit [Scalar α] in
theorem Gives.bundleText_eq (h : Gives s path text) : bundleText s path = .ok (.ok text) := by
  unfold bundleText
  cases h with
  | input hpath => rw [if_pos hpath]
  | file hpath hholds hdecode => rw [if_neg hpath, hholds.text_eq hdecode]

omit [Scalar α] in
theorem Unreadable.bundleText_eq (h : Unreadable s path) :
    ∃ message, bundleText s path = .ok (.error message) := by
  obtain ⟨hpath, hzero, f, hfile⟩ := h
  unfold bundleText
  rw [if_neg hpath, FileTree.text_of_fault hzero hfile]
  exact ⟨_, rfl⟩

omit [Scalar α] in
theorem Breaks.bundleText_eq (h : Breaks s path) : ∃ fault, bundleText s path = .error fault := by
  unfold bundleText
  rcases h with ⟨hpath, hzero | ⟨bytes, hholds, hdecode⟩⟩
  · rw [if_neg hpath, FileTree.text_of_zero hzero]
    exact ⟨_, rfl⟩
  · rw [if_neg hpath, hholds.text_eq_error hdecode]
    exact ⟨_, rfl⟩

omit [Scalar α] in
theorem gives_cases (s : Surroundings α) (path : String) :
    (∃ text, Gives s path text) ∨ Unreadable s path ∨ Breaks s path := by
  by_cases hpath : path = "-"
  · exact .inl ⟨s.input, .input hpath⟩
  rcases s.files.text_cases path with hzero | ⟨f, hzero, hfile⟩ | ⟨bytes, hholds, hdecode⟩ |
    ⟨bytes, cs, hholds, hdecode⟩
  · exact .inr (.inr ⟨hpath, .inl hzero⟩)
  · exact .inr (.inl ⟨hpath, hzero, f, hfile⟩)
  · exact .inr (.inr ⟨hpath, .inr ⟨bytes, hholds, hdecode⟩⟩)
  · exact .inl ⟨_, .file hpath hholds hdecode⟩

/-- what the path of a bundle may lead to -/
theorem bundle_cases (s : Surroundings α) (path : String) :
    (∃ text, Gives s path text ∧ ∃ b : Bundle α, Bundle.forScan (.text text) = .ok b) ∨
      Unreadable s path ∨ NoBundle s path ∨ Breaks s path := by
  rcases gives_cases s path with ⟨text, hgives⟩ | h | h
  · cases hb : (Bundle.forScan (.text text) : Except BundleError (Bundle α)) with
    | ok b => exact .inl ⟨text, hgives, b, hb⟩
    | error f =>
      obtain ⟨problems, rfl⟩ := ofJson_error hb
      exact .inr (.inr (.inl ⟨text, problems, hgives, hb⟩))
  · exact .inr (.inl h)
  · exact .inr (.inr (.inr h))

end

/-! ## the engine -/

variable {s : Surroundings α} {x : Settings α} {r : ScanRequest} {text : String} {e : Engine α}

/-- without a file of further patterns there is an engine, and it always comes to a report -/
theorem engine_builtIn (s : Surroundings α) (hpatterns : x.customPatterns = "") :
    ∃ e, engine s x = .ok (.ok e) ∧ (∀ p ∈ e.hub.registry.patterns, p.Presentable) ∧
      ∀ d ∈ e.detectors, d.Presentable := by
  have hcustom (r : Registry α) : Engine.addCustom x s.files r s.machine = (.ok [], r) := by
    unfold Engine.addCustom
    rw [hpatterns]
    exact if_pos rfl
  unfold engine Engine.ofSettings
  rw [hcustom]
  refine ⟨_, rfl, Catalog.presentable, ?_⟩
  show ∀ d ∈ Engine.detectorsOf x, d.Presentable
  unfold Engine.detectorsOf
  split
  · exact Detector.standard_presentable
  · exact fun d hd => nomatch hd

/-! ## the ways to end -/

theorem scan_of_complaint {message : String} (h : bundleText s r.bundle = .ok (.error message))
    (quiet : Bool) : scan s r quiet x = .ok (.complained message) := by
  unfold scan
  show Except.bind (bundleText s r.bundle) _ = _
  rw [h]
  rfl

theorem scan_of_fault {fault : SessionFault} (h : bundleText s r.bundle = .error fault)
    (quiet : Bool) : scan s r quiet x = .error fault := by
  unfold scan
  show Except.bind (bundleText s r.bundle) _ = _
  rw [h]
  rfl

/-- a text that holds no bundle is complained about -/
theorem scanWith_of_noBundle (hwebhooks : Webhook.ofSettings x = []) {f : BundleError}
    (h : (Bundle.forScan (.text text) : Except BundleError (Bundle α)) = .error f) (quiet : Bool) :
    scanWith s r quiet text x e = .ok (.complained f.message) := by
  have hscan : e.scan (.text text) = (.error (.bundle f), e) :=
    Engine.scanSubject_of_error (s := .source (.text text)) h
  unfold scanWith subscribed
  rw [hwebhooks]
  simp only [List.isEmpty_nil, if_true, hscan]

/-- a bundle is scanned, and its report is shown -/
theorem run_of_bundle (hsettings : settings s = .ok x)
    (hpatterns : (overridden r x).customPatterns = "") (hwebhooks : Webhook.ofSettings x = [])
    {line : List String} {quiet : Bool}
    (hline : Invocation.read line = .ok ⟨false, quiet, some (.scan r)⟩) {b : Bundle α}
    (hgives : Gives s r.bundle text) (hb : Bundle.forScan (.text text) = .ok b) :
    ∃ t, run s line = .ok t ∧ (t.status = .returned 0 ∨ t.status = .returned 1) ∧ t.err = "" ∧
      t.posts = [] := by
  obtain ⟨e, hengine, hps, hds⟩ := engine_builtIn s hpatterns
  obtain ⟨report, hok, hlistable⟩ := scanBundle_presentable hps hds b
  have hscan : (e.scan (.text text)).1 = .ok report := by
    have hsubject := Engine.scanSubject_of_ok (e := e) (s := .source (.text text)) hb
    show (e.scanSubject (.source (.text text))).1 = .ok report
    rw [hsubject]
    exact congrArg (Except.mapError ScanFault.finding) hok
  obtain ⟨_, -, hending⟩ := run_ending ⟨hsettings, hgives.bundleText_eq, hengine, hscan⟩
  have hrun := hending r quiet line ⟨rfl, rfl, rfl, rfl⟩ hline
  dsimp only at hrun
  rw [hrun, hwebhooks, notifyAll_no_webhooks]
  rcases ending_cases s r quiet e.hub.registry.patterns report _ _ with
    ⟨fault, _, hblocked⟩ | ⟨shownText, hend, -⟩
  · cases hformat : r.format with
    | table => exact absurd hblocked (not_blocked_of_plain hformat (fun p hp => (hps p hp).plain) fault)
    | json =>
      have hshown := Finding.select_subset r.floor r.limit report.findings
      cases hblocked with
      | unlisted _ hunlisted => exact absurd hunlisted (Report.not_unlisted hshown hlistable _)
      | finding htable => exact nomatch hformat.symm.trans htable
      | skipped htable => exact nomatch hformat.symm.trans htable
  · refine ⟨_, hend, ?_, rfl, rfl⟩
    show Status.returned (codeOf (shown r report)) = _ ∨ Status.returned (codeOf (shown r report)) = _
    rcases codeOf_cases (shown r report) with hcode | hcode
    · rw [hcode]
      exact .inr rfl
    · rw [hcode]
      exact .inl rfl

/-- **How a scan ends.** A bundle has a report, and the code is 0 or 1; what cannot be read or holds no
bundle is complained about, and the code is 2; and nothing breaks the session but a file that is no text
and a path that is none. -/
theorem run_outcome (hsettings : settings s = .ok x) (hpatterns : (overridden r x).customPatterns = "")
    (hwebhooks : Webhook.ofSettings x = []) {line : List String} {quiet : Bool}
    (hline : Invocation.read line = .ok ⟨false, quiet, some (.scan r)⟩) :
    (∀ text (b : Bundle α), Gives s r.bundle text → Bundle.forScan (.text text) = .ok b →
      ∃ t, run s line = .ok t ∧ (t.status = .returned 0 ∨ t.status = .returned 1) ∧ t.err = "" ∧
        t.posts = []) ∧
    (Unreadable s r.bundle ∨ NoBundle s r.bundle →
      ∃ t, run s line = .ok t ∧ t.status = .returned 2 ∧ t.out = "" ∧ t.posts = []) ∧
    ((∃ fault, run s line = .error fault) ↔ Breaks s r.bundle) ∧
    ((∃ text, Gives s r.bundle text ∧ ∃ b : Bundle α, Bundle.forScan (.text text) = .ok b) ∨
      Unreadable s r.bundle ∨ NoBundle s r.bundle ∨ Breaks s r.bundle) := by
  have hrun := run_eq_scan hsettings hline
  have hbundle (text : String) (b : Bundle α) (hgives : Gives s r.bundle text)
      (hb : Bundle.forScan (.text text) = .ok b) :=
    run_of_bundle hsettings hpatterns hwebhooks hline hgives hb
  have hcomplaint : Unreadable s r.bundle ∨ NoBundle s r.bundle →
      ∃ t, run s line = .ok t ∧ t.status = .returned 2 ∧ t.out = "" ∧ t.posts = [] := by
    rintro (hunreadable | ⟨text, problems, hgives, hnone⟩)
    · obtain ⟨message, hmessage⟩ := hunreadable.bundleText_eq
      exact ⟨_, hrun.trans (scan_of_complaint hmessage quiet), rfl, rfl, rfl⟩
    · obtain ⟨e, hengine, _⟩ := engine_builtIn s hpatterns
      have hwebhooks' := (overridden_events r x).2.trans hwebhooks
      have hscan := scan_of_text hgives.bundleText_eq hengine quiet
      exact ⟨_, hrun.trans (hscan.trans (scanWith_of_noBundle hwebhooks' hnone quiet)), rfl, rfl, rfl⟩
  refine ⟨hbundle, hcomplaint, ⟨?_, ?_⟩, bundle_cases s r.bundle⟩
  · rintro ⟨fault, hfault⟩
    rcases bundle_cases s r.bundle with ⟨text, hgives, b, hb⟩ | h | h | h
    · obtain ⟨t, ht, _⟩ := hbundle text b hgives hb
      exact nomatch hfault.symm.trans ht
    · obtain ⟨t, ht, _⟩ := hcomplaint (.inl h)
      exact nomatch hfault.symm.trans ht
    · obtain ⟨t, ht, _⟩ := hcomplaint (.inr h)
      exact nomatch hfault.symm.trans ht
    · exact h
  · intro hbreaks
    obtain ⟨fault, hfault⟩ := hbreaks.bundleText_eq
    exact ⟨fault, hrun.trans (scan_of_fault hfault quiet)⟩

/-! ### a bundle, something else, and a byte that is no text -/

def smallBundle : String := "\x7b\"address\": \"0xabc\", \"network\": \"eth\"\x7d"

/-- three files -/
def shelf : FileTree
  | "bundle.json" => .ok (Text.Utf8.bytes smallBundle)
  | "list.json" => .ok [0x5b, 0x5d]
  | "byte.json" => .ok [0xff]
  | _ => .error .missing

def atShelf : Surroundings Float :=
  { Sample.session [] fun _ _ => .failure "" with files := shelf }

/-- the request for a table of all findings -/
def plainRequest (path : String) : ScanRequest := ⟨path, none, .table, 0, none, false, none⟩

set_option maxRecDepth 10000 in
theorem run_outcome_shelf :
    (∃ t, run atShelf ["scan", "bundle.json"] = .ok t ∧
      (t.status = .returned 0 ∨ t.status = .returned 1)) ∧
    (∃ t, run atShelf ["scan", "list.json"] = .ok t ∧ t.status = .returned 2 ∧ t.out = "") ∧
    ∃ t, run atShelf ["scan", "none.json"] = .ok t ∧ t.status = .returned 2 ∧ t.out = "" := by
  have hsettings : settings atShelf = .ok (Sample.settings "" "") := by rfl
  have hwebhooks : Webhook.ofSettings (Sample.settings "" "") = [] := by rfl
  have hread₁ : Invocation.read ["scan", "bundle.json"] =
      .ok ⟨false, false, some (.scan (plainRequest "bundle.json"))⟩ := by rfl
  have hread₂ : Invocation.read ["scan", "list.json"] =
      .ok ⟨false, false, some (.scan (plainRequest "list.json"))⟩ := by rfl
  have hread₃ : Invocation.read ["scan", "none.json"] =
      .ok ⟨false, false, some (.scan (plainRequest "none.json"))⟩ := by rfl
  obtain ⟨hbundle, -, -, -⟩ := run_outcome hsettings rfl hwebhooks hread₁
  obtain ⟨-, hlist, -, -⟩ := run_outcome hsettings rfl hwebhooks hread₂
  obtain ⟨-, hnone, -, -⟩ := run_outcome hsettings rfl hwebhooks hread₃
  refine ⟨?_, ?_, ?_⟩
  · have hholds : shelf.Holds "bundle.json" (Text.Utf8.bytes smallBundle) := ⟨by decide, rfl⟩
    have hread : (Text.Utf8.decode (Text.Utf8.bytes smallBundle)).toOption.any (fun cs =>
        (Bundle.forScan (.text (String.ofList (Text.unifyBreaks cs))) :
          Except BundleError (Bundle Float)).isOk) = true := by decide +kernel
    obtain ⟨cs, hdecode, hok⟩ := exists_ok_of_any hread
    obtain ⟨b, hb⟩ := exists_eq_ok hok
    obtain ⟨t, ht, hstatus, -⟩ := hbundle _ b (.file (by decide) hholds hdecode) hb
    exact ⟨t, ht, hstatus⟩
  · have hholds : shelf.Holds "list.json" [0x5b, 0x5d] := ⟨by decide, rfl⟩
    have hread : (Text.Utf8.decode [0x5b, 0x5d]).toOption.any (fun cs =>
        !(Bundle.forScan (.text (String.ofList (Text.unifyBreaks cs))) :
          Except BundleError (Bundle Float)).isOk) = true := by decide +kernel
    obtain ⟨cs, hdecode, hfault⟩ := exists_ok_of_any hread
    have hbroken : NoBundle atShelf "list.json" := by
      cases hb : (Bundle.forScan (.text (String.ofList (Text.unifyBreaks cs))) :
          Except BundleError (Bundle Float)) with
      | ok b =>
        rw [hb] at hfault
        exact nomatch hfault
      | error f =>
        obtain ⟨problems, rfl⟩ := ofJson_error hb
        exact ⟨_, problems, .file (by decide) hholds hdecode, hb⟩
    obtain ⟨t, ht, hstatus, hout, -⟩ := hlist (.inr hbroken)
    exact ⟨t, ht, hstatus, hout⟩
  · have hmissing : Unreadable atShelf "none.json" := ⟨by decide, by decide, .missing, rfl⟩
    obtain ⟨t, ht, hstatus, hout, -⟩ := hnone (.inl hmissing)
    exact ⟨t, ht, hstatus, hout⟩

set_option maxRecDepth 10000 in
/-- a byte that is no text breaks the session -/
theorem run_unread : run atShelf ["scan", "byte.json"] = .error .noText := by rfl

end ContractRisk.CommandLine.Session
