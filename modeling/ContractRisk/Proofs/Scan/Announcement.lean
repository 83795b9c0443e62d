import ContractRisk.Proofs.Finding.Ranking
import ContractRisk.Proofs.Pattern.Entry
import ContractRisk.Proofs.Scan.Course

/-!
# What a scan announces

A scan of something that is no bundle changes nothing (`forScan_error` says which refusals there are).
Any other scan polls the detectors and follows its leads, and it depends on the leads alone how it ends:

* `scanSubject_outcome`   if all leads are fit, there is a report with one event for each finding; else
  there is none, and the events of the leads before the first unfit one have been published.

A lead is unfit if something that its finding would show is neither a text nor the bytes of one in UTF-8.
The name of a pattern that is read from an entry is made a text, its indicators are not: `scan_breaks_off`
has two such patterns, of which the second one ends a scan after the event of the first.
-/

namespace ContractRisk

/-! ## refused bundles -/

section
variable {α : Type} [Scalar α]

theorem ofJson_error {bs : List UInt8} {f : BundleError}
    (h : (Bundle.ofJson bs : Except BundleError (Bundle α)) = .error f) :
    ∃ problems, f = .invalid problems := by
  unfold Bundle.ofJson at h
  split at h
  · cases h; exact ⟨_, rfl⟩
  · exact mapError_eq_error h

/-- a scan refuses what is of another kind and what does not hold a bundle, for no other reason -/
theorem forScan_error {s : BundleSource} {f : BundleError}
    (h : (Bundle.forScan s : Except BundleError (Bundle α)) = .error f) :
    (∃ problems, f = .invalid problems) ∨ ∃ kind, f = .unsupported kind := by
  cases s with
  | text s => exact .inl (ofJson_error h)
  | bytes bs => exact .inl (ofJson_error h)
  | data v =>
    cases v with
    | text s => exact .inl (ofJson_error h)
    | map es => exact .inl (mapError_eq_error h)
    | _ => cases h; exact .inr ⟨_, rfl⟩

theorem Subject.bundle?_error {s : Subject α} {f : BundleError} (h : s.bundle? = .error f) :
    (∃ problems, f = .invalid problems) ∨ ∃ kind, f = .unsupported kind := by
  cases s with
  | source s => exact forScan_error h
  | bundle b => exact nomatch h

/-! ## the outcomes -/

/-- **How a scan ends.** It is refused, completed or broken off, and what has been published then is
settled by the leads. -/
theorem scanSubject_outcome (e : Engine α) (s : Subject α) :
    (∃ f, s.bundle? = .error f ∧ e.scanSubject s = (.error (.bundle f), e) ∧
        ((∃ problems, f = .invalid problems) ∨ ∃ kind, f = .unsupported kind)) ∨
      ∃ b as polled made, s.bundle? = .ok b ∧
        Poll e.timeout b e.detectors (e.hub.started b) as polled ∧
        (e.scanSubject s).2.hub.bus =
          polled.bus.publishAll (eventsOf polled.now b.address e.hub.supply.next made) ∧
        (((∀ l ∈ scanLeads b e.hub.registry.patterns e.detectors as, l.Fit) ∧
            ∃ r, (e.scanSubject s).1 = .ok r ∧ r.scanId = e.hub.supply.next ∧
              made.Perm r.findings) ∨
          ∃ done l post problems,
            scanLeads b e.hub.registry.patterns e.detectors as = done ++ l :: post ∧ ¬ l.Fit ∧
            (e.scanSubject s).1 = .error (.finding problems) ∧
            List.Forall₂ (Lead.Gives b) done made) := by
  cases hb : s.bundle? with
  | error f =>
    exact .inl ⟨f, rfl, Engine.scanSubject_of_error hb, Subject.bundle?_error hb⟩
  | ok b =>
    right
    rw [Engine.scanSubject_of_ok hb]
    obtain ⟨as, polled, fs, hpoll, hcase⟩ := scanWith_spec e.timeout e.detectors b e.hub
    rcases hcase with ⟨r, extra, hok, hc, hbus⟩ | ⟨problems, herror, hgathered, hbus⟩
    · refine ⟨b, as, polled, fs ++ extra, rfl, hpoll, hbus, .inl ⟨?_, r, ?_, hc.scanId, ?_⟩⟩
      · exact (Gathered.all hc.made).isOk_iff.mp rfl
      · exact congrArg (Except.mapError ScanFault.finding) hok
      · rw [hc.findings]
        exact (Finding.rank_perm _).symm
    · cases hgathered with
      | upTo hleads hdone hunfit =>
        have hfault := congrArg (Except.mapError ScanFault.finding) herror
        exact ⟨b, as, polled, fs, rfl, hpoll, hbus,
          .inr ⟨_, _, _, problems, hleads, hunfit, hfault, hdone⟩⟩

/-! ## an entry that breaks scans off -/

/-- an entry of a pattern file -/
def sampleEntry (id : String) (indicators : List Value) : Value :=
  textMap [("id", .text id), ("name", .text id), ("description", .text ""),
    ("severity", .text "high"), ("confidence", .int 80), ("category", .text "honeypot"),
    ("match", textMap [("contains", .text "0x1")]), ("indicators", .list indicators)]

/-- the pattern of such an entry -/
def entryPattern (id : String) (indicators : List Value) : Pattern α :=
  let p : Pattern α := Sample.pattern id .high fun _ => .ok (.holds true)
  { p with condition := .contains "0x1", indicators }

omit [Scalar α] in
theorem ofEntry_sampleEntry {m : Machine} {id : String} (hid : checkId (.text id) = .ok id)
    {indicators : List Value} (hi : distinctItems (.tuple indicators) = .ok indicators) :
    Pattern.ofEntry (sampleEntry id indicators) m = .ok (entryPattern id indicators : Pattern α) := by
  have hmatch : Pattern.entryCondition m (.map [(.text "contains", .text "0x1")]) =
      .ok (.contains "0x1" : Condition α) := by
    simp [Pattern.entryCondition, Value.field?, entry?_text, entry?_nil, Condition.ofText,
      Value.display, Except.mapError]
    rfl
  unfold sampleEntry textMap
  simp only [List.map_cons, List.map_nil]
  have hcomplete : Pattern.Complete m [(.text "id", .text id), (.text "name", .text id),
      (.text "description", .text ""), (.text "severity", .text "high"),
      (.text "confidence", .int 80), (.text "category", .text "honeypot"),
      (.text "match", .map [(.text "contains", .text "0x1")]),
      (.text "indicators", .list indicators)] (.text id) := by
    refine ⟨?_, ?_, Pattern.writes_text m "id" id⟩ <;> simp [Pattern.requiredKeys, entry?_text]
  rw [hcomplete.ofEntry_eq, mapError_eq_ok, Pattern.ofFields_eq_ok_iff]
  refine ⟨?_, .contains "0x1", ?_, indicators, ?_, [], ?_, 1, ?_, ?_⟩
  · constructor <;> simp [Pattern.entryField, Pattern.mitigationField, entry?_text, entry?_nil]
  · simpa [Pattern.entryField, entry?_text] using hmatch
  · cases indicators <;>
      simp [Pattern.entryList, entry?_text, Value.isVoid, Pattern.entryItems, Value.items?]
  · simp [Pattern.entryList, entry?_text, entry?_nil]
  · simp [Pattern.wholeOf, entry?_text, entry?_nil]
  · constructor <;>
      simp [Pattern.entryDraft, Pattern.entryText, Pattern.entryField, Pattern.mitigationField,
        entry?_text, entry?_nil,
        Value.display, hid, hi, entryPattern, Sample.pattern]
    all_goals rfl

/-- an engine with one subscriber -/
def heardEngine (ps : List (Pattern α)) : Engine α :=
  let e := Sample.engine ps []
  { e with hub := { e.hub with bus := (e.hub.bus.subscribe none).2 } }

/-- is there a report, and how many events has each subscriber heard? -/
def reported (x : Except ScanFault (Report α) × Engine α) : Bool × List Nat :=
  (x.1.isOk, x.2.hub.bus.queues.map (·.pending.length))

end

/-- a number among the indicators of the second entry: the first finding is announced, and there is no
report -/
theorem scan_breaks_off :
    Pattern.ofEntry (sampleEntry "A" []) = .ok (entryPattern "A" [] : Pattern Float) ∧
      Pattern.ofEntry (sampleEntry "B" [.int 1]) = .ok (entryPattern "B" [.int 1] : Pattern Float) ∧
      Registry.ofList [entryPattern "A" [], entryPattern "B" [.int 1]] =
        .ok (heardEngine (α := Float) [entryPattern "A" [], entryPattern "B" [.int 1]]).hub.registry ∧
      reported ((heardEngine (α := Float) [entryPattern "A" [], entryPattern "B" [.int 1]]).scanSubject
        (.bundle Sample.bundle)) = (false, [1]) := by
  refine ⟨ofEntry_sampleEntry ?_ ?_, ofEntry_sampleEntry ?_ ?_, rfl, ?_⟩
  · decide +kernel
  · rfl
  · decide +kernel
  · rfl
  · decide +kernel

end ContractRisk
