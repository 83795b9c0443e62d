import ContractRisk.Proofs.Scan.Interleaving
import ContractRisk.Proofs.Scan.Isolation

/-!
# Scans in a row

A scan takes an identifier for itself and then one for each finding. `Supply.Spends` says which ones are
taken between two states of a supply: their numbers rise, so that no two of them are the same. If the
detectors are `Detector.Inert`, the next scan finds the same engine apart from that, and reports the same
apart from identifiers.

* `reports_spends`        what any number of scans in a row take from the supply;
* `scanBundle_alike`      engines with the same patterns, detectors and time limit report alike;
* `scanBundle_repeated`   both together for a scan that is made twice.
-/

namespace ContractRisk

/-! ## identifiers that are taken -/

namespace Supply

/-- between the two states these identifiers are taken in order, and perhaps others -/
structure Spends (s : Supply) (ids : List String) (s' : Supply) : Prop where
  label : s'.label = s.label
  used : s.used ≤ s'.used
  numbers : ∃ ns : List Nat, ids = ns.map s.label ∧ ns.Pairwise (· < ·) ∧
    ∀ n ∈ ns, s.used < n ∧ n ≤ s'.used

theorem Spends.refl (s : Supply) : s.Spends [] s where
  label := rfl
  used := le_rfl
  numbers := ⟨[], rfl, .nil, fun _ hn => nomatch hn⟩

theorem Spends.next (s : Supply) : s.Spends [s.next] s.advance where
  label := rfl
  used := Nat.le_succ _
  numbers := by
    refine ⟨[s.used + 1], rfl, List.pairwise_singleton _ _, fun n hn => ?_⟩
    rw [List.mem_singleton.mp hn]
    exact ⟨Nat.lt_succ_self _, le_rfl⟩

theorem Spends.trans {s s' s'' : Supply} {ids ids' : List String} (h : s.Spends ids s')
    (h' : s'.Spends ids' s'') : s.Spends (ids ++ ids') s'' where
  label := h'.label.trans h.label
  used := h.used.trans h'.used
  numbers := by
    obtain ⟨ns, hids, hrise, hns⟩ := h.numbers
    obtain ⟨ns', hids', hrise', hns'⟩ := h'.numbers
    have hle := h.used
    have hle' := h'.used
    refine ⟨ns ++ ns', ?_, ?_, ?_⟩
    · rw [hids, hids', h.label, List.map_append]
    · refine List.pairwise_append.mpr ⟨hrise, hrise', fun n hn n' hn' => ?_⟩
      have h1 := hns n hn
      have h2 := hns' n' hn'
      omega
    · intro n hn
      rcases List.mem_append.mp hn with hn | hn
      · have h1 := hns n hn
        omega
      · have h2 := hns' n hn
        omega

/-- identifiers with different labels are taken once at most -/
theorem Spends.nodup {s s' : Supply} {ids : List String} (h : s.Spends ids s')
    (hlabel : Function.Injective s.label) : ids.Nodup := by
  obtain ⟨ns, hids, hrise, _⟩ := h.numbers
  have hns : ns.Nodup := hrise.imp fun hlt => hlt.ne
  rw [hids]
  exact hns.map hlabel

end Supply

/-! ## detectors that leave no trace -/

/-- whatever it is asked about, the detector replies the same in every state, leaves the registry alone,
and takes identifiers at most -/
structure Detector.Inert {α : Type} (d : Detector α (Hub α)) : Prop where
  steady : ∀ b, d.Steady b
  registry : ∀ (b : Bundle α) (h : Hub α), (d.analyze b h).2.registry = h.registry
  supply : ∀ (b : Bundle α) (h : Hub α), h.supply.Spends [] (d.analyze b h).2.supply

variable {α : Type} [Scalar α]

omit [Scalar α] in
theorem Detector.Pure.inert {d : Detector α (Hub α)} (h : d.Pure) : d.Inert := by
  obtain ⟨reply, hreply⟩ := h
  refine ⟨fun b k k' => ?_, fun b k => ?_, fun b k => ?_⟩
  · rw [hreply, hreply]
  · rw [hreply]
  · rw [hreply]
    exact .refl k.supply

omit [Scalar α] in
theorem Sample.detector_inert (id : String) (threshold riskScale : α) (reply : Reply α) :
    (detector id threshold riskScale reply).Inert :=
  Detector.Pure.inert ⟨fun _ => reply, fun _ _ => rfl⟩

section
variable {timeout : α} {b : Bundle α} {h h' k k' : Hub α}

variable {ds : List (Detector α (Hub α))} {as as' : List (Option (Answer α))}

theorem Poll.keeps (hp : Poll timeout b ds h as h') (hds : ∀ d ∈ ds, d.Inert) :
    h'.registry = h.registry ∧ h.supply.Spends [] h'.supply := by
  refine hp.invariant (P := fun k => k.registry = h.registry ∧ h.supply.Spends [] k.supply)
    (fun d hd k hk => ?_) ⟨rfl, .refl _⟩
  obtain ⟨hregistry, hsupply⟩ := hk
  exact ⟨((hds d hd).registry b k).trans hregistry, hsupply.trans ((hds d hd).supply b k)⟩

/-- steady detectors give the same answers in every state -/
theorem Poll.answers_eq (hp : Poll timeout b ds h as h') (hds : ∀ d ∈ ds, d.Steady b)
    (hp' : Poll timeout b ds k as' k') : as = as' := by
  induction hp generalizing as' k with
  | nil _ =>
    cases hp'
    rfl
  | cons hr _ ih =>
    cases hp' with
    | cons hr' hp' =>
      rw [hr.eq_of_steady (hds _ List.mem_cons_self) hr',
        ih (fun d hd => hds d (List.mem_cons_of_mem _ hd)) hp']

end

/-! ## what a scan takes -/

theorem Lead.findingId_eq {id : String} {b : Bundle α} {l : Lead α} {f : Finding α}
    (h : l.finding id b = .ok f) : f.findingId = id := by
  cases l with
  | rule m => exact (Finding.ofMatch_eq_ok_iff.mp h).findingId
  | signal d s => exact (Finding.ofSignal_eq_ok_iff.mp h).findingId

theorem gather_spends (b : Bundle α) (scanId : String) (ls : List (Lead α)) (h : Hub α) :
    ∃ ids, h.supply.Spends ids (gather b scanId ls h).2.supply ∧
      ∀ fs, (gather b scanId ls h).1 = .ok fs → fs.map (·.findingId) = ids := by
  induction ls generalizing h with
  | nil =>
    refine ⟨[], .refl _, fun fs hfs => ?_⟩
    cases hfs
    rfl
  | cons l ls ih =>
    unfold gather
    dsimp only [Hub.takeId]
    cases hl : l.finding h.supply.next b with
    | error problems =>
      refine ⟨_, .next h.supply, fun fs hfs => ?_⟩
      cases hfs
    | ok f =>
      obtain ⟨ids, hspends, hids⟩ := ih (h.takeId.2.announce f b scanId)
      refine ⟨h.supply.next :: ids, (Supply.Spends.next h.supply).trans hspends, ?_⟩
      dsimp only [Hub.takeId] at hids ⊢
      generalize gather b scanId ls _ = x at hids
      obtain ⟨_ | fs', k⟩ := x
      · intro fs hfs
        cases hfs
      · intro fs hfs
        cases hfs
        rw [List.map_cons, Lead.findingId_eq hl, hids fs' rfl]

theorem escalate_spends (b : Bundle α) (scanId : String) (p : RiskProfile α)
    (fs : List (Finding α)) (h : Hub α) :
    ∃ ids, h.supply.Spends ids (escalate b scanId p fs h).2.supply ∧
      (escalate b scanId p fs h).1.map (·.findingId) = fs.map (·.findingId) ++ ids := by
  unfold escalate
  cases p.needsEscalation with
  | true => exact ⟨[h.supply.next], .next h.supply, List.map_append⟩
  | false => exact ⟨[], .refl _, (List.append_nil _).symm⟩

theorem finish_spends (timeout : α) (b : Bundle α) (scanId : String) (s : Screening α)
    (asked : List (Asked α)) (h : Hub α) :
    ∃ ids, h.supply.Spends ids (finish timeout b scanId s asked h).2.supply ∧
      ∀ r, (finish timeout b scanId s asked h).1 = .ok r →
        r.scanId = scanId ∧ (r.findings.map (·.findingId)).Perm ids := by
  obtain ⟨ids, hspends, hids⟩ := gather_spends b scanId (leads s asked)
    (h.write (detectorNotes (.ofScan scanId b.address) timeout asked))
  unfold finish
  dsimp only
  generalize gather b scanId (leads s asked) _ = x at hspends hids
  obtain ⟨problems | fs, k⟩ := x
  · exact ⟨ids, hspends, fun r hr => nomatch hr⟩
  · obtain ⟨more, hmore, hall⟩ := escalate_spends b scanId (.ofFindings fs) fs k
    refine ⟨ids ++ more, hspends.trans hmore, fun r hr => ?_⟩
    cases hr
    refine ⟨rfl, ?_⟩
    rw [← hids fs rfl, ← hall]
    exact (Finding.rank_perm _).map _

/-- the identifiers that a report shows, its own first -/
def Report.ids (r : Report α) : List String := r.scanId :: r.findings.map (·.findingId)

namespace Engine

theorem scanBundle_spends {e : Engine α} (hds : ∀ d ∈ e.detectors, d.Inert) (b : Bundle α) :
    ∃ ids, e.hub.supply.Spends ids (e.scanBundle b).2.hub.supply ∧
      ∀ r, (e.scanBundle b).1 = .ok r → r.ids.Perm ids := by
  obtain ⟨as, hpoll, _⟩ := askAll_spec e.timeout b e.detectors (e.hub.started b)
  obtain ⟨_, hpolled⟩ := hpoll.keeps hds
  obtain ⟨ids, hspends, hids⟩ := finish_spends e.timeout b e.hub.supply.next
    (screen e.hub.registry.patterns b) (askAll e.timeout b e.detectors (e.hub.started b)).1
    (askAll e.timeout b e.detectors (e.hub.started b)).2
  refine ⟨e.hub.supply.next :: ids,
    (Supply.Spends.next e.hub.supply).trans (hpolled.trans hspends), fun r hr => ?_⟩
  obtain ⟨hscanId, hperm⟩ := hids r hr
  unfold Report.ids
  rw [hscanId]
  exact hperm.cons _

/-! ## scans in a row -/

/-- `e'` goes on with the patterns, the detectors and the time limit of `e` -/
structure Resumes (e e' : Engine α) : Prop where
  timeout : e'.timeout = e.timeout
  detectors : e'.detectors = e.detectors
  registry : e'.hub.registry = e.hub.registry

omit [Scalar α] in
theorem Resumes.trans {e e' e'' : Engine α} (h : e.Resumes e') (h' : e'.Resumes e'') :
    e.Resumes e'' where
  timeout := h'.timeout.trans h.timeout
  detectors := h'.detectors.trans h.detectors
  registry := h'.registry.trans h.registry

theorem scanBundle_resumes {e : Engine α} (hds : ∀ d ∈ e.detectors, d.Inert) (b : Bundle α) :
    e.Resumes (e.scanBundle b).2 where
  timeout := rfl
  detectors := rfl
  registry := by
    obtain ⟨as, hpoll, _⟩ := askAll_spec e.timeout b e.detectors (e.hub.started b)
    obtain ⟨hpolled, _⟩ := hpoll.keeps hds
    have hfinish := finish_registry e.timeout b e.hub.supply.next
      (screen e.hub.registry.patterns b) (askAll e.timeout b e.detectors (e.hub.started b)).1
      (askAll e.timeout b e.detectors (e.hub.started b)).2
    exact hfinish.trans hpolled

/-- the engine after scans in a row -/
def after (e : Engine α) (bs : List (Bundle α)) : Engine α :=
  bs.foldl (fun e b => (e.scanBundle b).2) e

theorem after_resumes {e : Engine α} (hds : ∀ d ∈ e.detectors, d.Inert) (bs : List (Bundle α)) :
    e.Resumes (e.after bs) := by
  induction bs generalizing e with
  | nil => exact ⟨rfl, rfl, rfl⟩
  | cons b bs ih => exact (scanBundle_resumes hds b).trans (ih (e := (e.scanBundle b).2) hds)

/-- the reports of scans in a row -/
def reports (e : Engine α) : List (Bundle α) → List (Report α)
  | [] => []
  | b :: bs => (e.scanBundle b).1.toOption.toList ++ (e.scanBundle b).2.reports bs

theorem reports_spends {e : Engine α} (hds : ∀ d ∈ e.detectors, d.Inert) (bs : List (Bundle α)) :
    ∃ ids, e.hub.supply.Spends ids (e.after bs).hub.supply ∧
      ((e.reports bs).flatMap Report.ids).Subperm ids := by
  induction bs generalizing e with
  | nil => exact ⟨[], .refl _, .refl _⟩
  | cons b bs ih =>
    obtain ⟨ids, hspends, hids⟩ := scanBundle_spends hds b
    obtain ⟨ids', hspends', hids'⟩ := ih (e := (e.scanBundle b).2) hds
    refine ⟨ids ++ ids', hspends.trans hspends', ?_⟩
    unfold reports
    rw [List.flatMap_append]
    refine List.Subperm.append ?_ hids'
    cases hscan : (e.scanBundle b).1 with
    | error problems => exact List.nil_subperm
    | ok r =>
      show ([r].flatMap Report.ids).Subperm ids
      rw [List.flatMap_singleton]
      exact (hids r hscan).subperm

/-- no identifier comes up twice in the reports of scans in a row -/
theorem nodup_reports_ids {e : Engine α} (hds : ∀ d ∈ e.detectors, d.Inert)
    (hlabel : Function.Injective e.hub.supply.label) (bs : List (Bundle α)) :
    ((e.reports bs).flatMap Report.ids).Nodup := by
  obtain ⟨ids, hspends, hids⟩ := reports_spends hds bs
  obtain ⟨taken, hperm, hsub⟩ := hids
  exact hperm.nodup_iff.mp ((hspends.nodup hlabel).sublist hsub)

end Engine

/-- the reports show the same apart from the identifiers of the scans and of the findings -/
structure Report.Alike (r r' : Report α) : Prop where
  address : r'.address = r.address
  network : r'.network = r.network
  findings : r.findings.map Finding.unnamed = r'.findings.map Finding.unnamed
  risk : r'.risk = r.risk
  escalated : r'.escalated = r.escalated
  skipped : r'.skippedPatterns = r.skippedPatterns
  failed : r'.failedDetectors = r.failedDetectors

theorem scanBundle_alike {e e' : Engine α} (he : e.Resumes e') {b : Bundle α}
    (hsteady : ∀ d ∈ e.detectors, d.Steady b) {r : Report α} (hs : (e.scanBundle b).1 = .ok r) :
    ∃ r', (e'.scanBundle b).1 = .ok r' ∧ r.Alike r' := by
  obtain ⟨as, polled, fs, extra, hc⟩ := scanBundle_completes hs
  obtain ⟨as', hpoll, _⟩ := askAll_spec e'.timeout b e'.detectors (e'.hub.started b)
  have hpoll' := hpoll
  rw [he.timeout, he.detectors] at hpoll'
  have has : as' = as := (hc.poll.answers_eq hsteady hpoll').symm
  have hleads : scanLeads b e'.hub.registry.patterns e'.detectors as' =
      scanLeads b e.hub.registry.patterns e.detectors as := by
    rw [he.registry, he.detectors, has]
  obtain ⟨fs', extra', r', hok, hc', hmade⟩ := hc.follow hpoll hleads
  obtain ⟨hfindings, hrisk, hescalated⟩ := hc.unnamed_eq hc' hmade
  refine ⟨r', hok, ?_⟩
  exact {
    address := hc'.address.trans hc.address.symm
    network := hc'.network.trans hc.network.symm
    findings := hfindings
    risk := hrisk
    escalated := hescalated
    skipped := by rw [hc'.skipped, hc.skipped, he.registry]
    failed := by rw [hc'.failed, hc.failed, he.detectors, has] }

/-! ## the law -/

def Engine.withSupply (e : Engine α) (supply : Supply) : Engine α :=
  { e with hub := { e.hub with supply } }

/-- **A scan that is repeated.** The findings of both scans agree but for their identifiers, and they have
the same content except where a risk score is NaN, which takes a detector without a finite scale; the
reports are alike, and no identifier comes up twice. With any other supply and after any other scans the
report is alike, too. -/
theorem scanBundle_repeated (e : Engine Float) (b : Bundle Float) (r : Report Float)
    (hr : e.hub.registry.Reachable) (hds : ∀ d ∈ e.detectors, d.Inert) (hclean : e.Clean b)
    (hlabel : Function.Injective e.hub.supply.label) (hs : (e.scanBundle b).1 = .ok r) :
    ∃ r', ((e.scanBundle b).2.scanBundle b).1 = .ok r' ∧
      List.Forall₂ (fun f g => f.unnamed = g.unnamed ∧
        (f.sameContent g = true ↔ f.riskScore.isNaN = false)) r.findings r'.findings ∧
      ((∀ d ∈ e.detectors, d.riskScale.isFinite = true) →
        List.Forall₂ (fun f g => f.sameContent g = true) r.findings r'.findings) ∧
      r.Alike r' ∧ (r.ids ++ r'.ids).Nodup ∧
      ∀ (supply : Supply) (bs : List (Bundle Float)),
        ∃ r'', (((e.withSupply supply).after bs).scanBundle b).1 = .ok r'' ∧ r.Alike r'' := by
  have hsteady : ∀ d ∈ e.detectors, d.Steady b := fun d hd => (hds d hd).steady b
  obtain ⟨as, polled, fs, extra, hc⟩ := scanBundle_completes hs
  obtain ⟨r', hs', halike⟩ := scanBundle_alike (Engine.scanBundle_resumes hds b) hsteady hs
  obtain ⟨hpairs, hsame⟩ := hc.contents hr hclean halike.findings
  have hnodup : (r.ids ++ r'.ids).Nodup := by
    have hreports : e.reports [b, b] = [r, r'] := by
      unfold Engine.reports Engine.reports Engine.reports
      rw [hs, hs']
      rfl
    have hall := Engine.nodup_reports_ids hds hlabel [b, b]
    rw [hreports] at hall
    simpa using hall
  refine ⟨r', hs', hpairs, hsame, halike, hnodup, fun supply bs => ?_⟩
  have hother : e.Resumes (e.withSupply supply) := ⟨rfl, rfl, rfl⟩
  have hafter := hother.trans (Engine.after_resumes (e := e.withSupply supply) hds bs)
  exact scanBundle_alike hafter hsteady hs

/-! ## two engines that count in strokes -/

/-- as many strokes as the number says -/
def strokes (n : Nat) : String := String.ofList (List.replicate n 'i')

theorem strokes_injective : Function.Injective strokes := by
  intro n n' h
  have hlength := congrArg (fun s => s.toList.length) h
  simpa [strokes] using hlength

/-- the mixed engine, with strokes for identifiers -/
def strokedEngine : Engine Float := mixedEngine.withSupply ⟨strokes, 0⟩

theorem scanBundle_repeated_stroked :
    ∃ r r', (strokedEngine.scanBundle Sample.bundle).1 = .ok r ∧ r.skippedPatterns = ["BROKEN"] ∧
      ((strokedEngine.scanBundle Sample.bundle).2.scanBundle Sample.bundle).1 = .ok r' ∧
      List.Forall₂ (fun f g => f.sameContent g = true) r.findings r'.findings ∧
      r.Alike r' ∧ (r.ids ++ r'.ids).Nodup := by
  have hscales : ∀ d ∈ strokedEngine.detectors, d.riskScale.isFinite = true := by decide +kernel
  have hds : ∀ d ∈ strokedEngine.detectors, d.Inert := by
    intro d hd
    rcases hd with _ | ⟨_, _ | ⟨_, hd⟩⟩
    · exact Sample.detector_inert _ _ _ _
    · exact Sample.detector_inert _ _ _ _
    · exact nomatch hd
  have hclean : strokedEngine.Clean Sample.bundle :=
    ⟨mixedEngine_clean.patterns, mixedEngine_clean.constants, mixedEngine_clean.metadata⟩
  have hok : (strokedEngine.scanBundle Sample.bundle).1.isOk = true := by decide +kernel
  obtain ⟨r, hs⟩ := exists_eq_ok hok
  obtain ⟨_, _, _, _, hc⟩ := scanBundle_completes hs
  obtain ⟨r', hs', _, hsame, halike, hnodup, _⟩ :=
    scanBundle_repeated strokedEngine Sample.bundle r mixedEngine_reachable hds hclean
      strokes_injective hs
  exact ⟨r, r', hs, hc.skipped, hs', hsame hscales, halike, hnodup⟩

/-- a signal that comes to zero percent of an infinite risk is not found again with the same content -/
theorem scanBundle_unrepeated_unbounded :
    ∃ (e : Engine Float) (b : Bundle Float) (r r' : Report Float), e.hub.registry.Reachable ∧
      (∀ d ∈ e.detectors, d.Inert) ∧ e.Clean b ∧ Function.Injective e.hub.supply.label ∧
      (e.scanBundle b).1 = .ok r ∧ ((e.scanBundle b).2.scanBundle b).1 = .ok r' ∧
      ¬ List.Forall₂ (fun f g => f.sameContent g = true) r.findings r'.findings := by
  let e : Engine Float := unboundedEngine.withSupply ⟨strokes, 0⟩
  have hds : ∀ d ∈ e.detectors, d.Inert := by
    intro d hd
    rw [List.mem_singleton.mp hd]
    exact Sample.detector_inert _ _ _ _
  have hclean : e.Clean Sample.bundle :=
    ⟨unboundedEngine_clean.patterns, unboundedEngine_clean.constants, unboundedEngine_clean.metadata⟩
  have hnan : ((e.scanBundle Sample.bundle).1.toOption.map fun r =>
      r.findings.map (·.riskScore.isNaN)) = some [true] := by decide +kernel
  have hok : (e.scanBundle Sample.bundle).1.isOk = true := by decide +kernel
  have hagain : ((e.scanBundle Sample.bundle).2.scanBundle Sample.bundle).1.isOk = true := by
    decide +kernel
  obtain ⟨r, hs⟩ := exists_eq_ok hok
  obtain ⟨r', hs'⟩ := exists_eq_ok hagain
  rw [hs] at hnan
  exact ⟨e, Sample.bundle, r, r', .empty, hds, hclean, strokes_injective, hs, hs',
    not_sameContent_of_isNaN (Option.some.inj hnan)⟩

end ContractRisk
