import ContractRisk.Proofs.Bundle.Fields
import ContractRisk.Proofs.Bus.Queue
import ContractRisk.Proofs.Number.Fraction
import ContractRisk.Proofs.Scan.Findings
import ContractRisk.Proofs.Text.Trimming

/-!
# What a scan publishes

A completed scan publishes one event for each finding in the order in which the findings were made, while
its report ranks them. `scanWith_spec` says which events these are, and every queue on the bus hears them
all (`publishAll_queues`), so each subscription holds the first ones, as many as find room there.

* `scanSubject_publishes`   the events of a report, what becomes of every subscription, and that the report
  does not depend on the subscriptions.

The last part compares two scans whose detectors answered alike: what is made of the answers depends on the
supply of identifiers alone (`gather_same`, `scanWith_same`).
-/

namespace ContractRisk

variable {α : Type}

/-! ## queues -/

theorem publishAll_queues (b : Bus α) (es : List (Event α)) :
    (b.publishAll es).queues = b.queues.map (·.hearAll es) := by
  induction es generalizing b with
  | nil => exact (List.map_id' b.queues).symm
  | cons e es ih =>
    show ((b.publish e).publishAll es).queues = _
    rw [ih]
    show (b.queues.map (Bus.hear e)).map _ = _
    rw [List.map_map]
    rfl

/-- `q'` is `q` after some events: it is as before if it was off the bus, and else holds the first of them,
as many as find room, and has dropped the others -/
structure Queue.Took (q : Queue α) (es : List (Event α)) (q' : Queue α) : Prop where
  off : q.listening = false → q' = q
  bounded : q.listening = true → 0 < q.bound →
    let k := min es.length (q.bound.toNat - q.pending.length)
    q'.pending = q.pending ++ es.take k ∧ q'.dropped = q.dropped + (es.length - k)
  unbounded : q.listening = true → q.bound ≤ 0 →
    q'.pending = q.pending ++ es ∧ q'.dropped = q.dropped

theorem Queue.took (q : Queue α) (es : List (Event α)) : q.Took es (q.hearAll es) where
  off hl := q.hearAll_of_off hl es
  bounded hl hm := by
    rw [q.hearAll_of_bounded hl hm, List.take_eq_take_min, Nat.min_comm]
    exact ⟨rfl, rfl⟩
  unbounded hl hm := by
    rw [q.hearAll_of_unbounded hl hm]
    exact ⟨rfl, rfl⟩

/-! ## events -/

/-- an event tells of a finding about the contract at an address -/
structure Event.Tells (address scanId : String) (f : Finding α) (e : Event α) : Prop where
  findingId : e.findingId = f.findingId
  patternId : e.patternId = f.patternId
  severity : e.severity = f.severity
  category : e.category = f.category
  riskScore : e.riskScore = f.riskScore
  address : e.address = address
  scanId : e.scanId = scanId

variable [Scalar α]

omit [Scalar α] in
theorem tells_eventsOf (now : α) (address scanId : String) (fs : List (Finding α)) :
    List.Forall₂ (Event.Tells address scanId) fs (eventsOf now address scanId fs) := by
  unfold eventsOf
  rw [List.forall₂_map_right_iff, List.forall₂_same]
  exact fun f _ => ⟨rfl, rfl, rfl, rfl, rfl, rfl, rfl⟩

/-! ## addresses -/

theorem checkLabel_eq_ok {path : List String} {v : Value} {s : String}
    (h : checkLabel path v = .ok s) : Text.trim s = s ∧ s.isEmpty = false := by
  unfold checkLabel at h
  cases ht : Check.text path v with
  | error p => rw [ht] at h; exact nomatch h
  | ok t =>
    rw [ht] at h
    dsimp only at h
    cases hblank : (Text.trim t).isEmpty with
    | true => rw [hblank] at h; exact nomatch h
    | false =>
      rw [hblank] at h
      rw [← Except.ok.inj h]
      exact ⟨Text.trim_trim t, hblank⟩

/-- a bundle that was read has no blanks around its address -/
theorem ofFields_address {medium : Medium} {fs : Fields} {b : Bundle α}
    (h : Bundle.ofFields medium fs = .ok b) : Text.trim b.address = b.address := by
  unfold Bundle.ofFields at h
  simp only [Check.seq_eq_ok, Check.map_eq_ok] at h
  obtain ⟨_, ⟨_, ⟨_, ⟨_, ⟨_, ⟨_, ⟨_, ⟨_, ⟨address, haddress, rfl⟩, _, _, rfl⟩, _, _, rfl⟩, _, _, rfl⟩,
    _, _, rfl⟩, _, _, rfl⟩, _, _, rfl⟩, _, _, rfl⟩, _, _, rfl⟩ := h
  obtain ⟨_, _, _, hlabel⟩ := Check.required_eq_ok haddress
  exact (checkLabel_eq_ok hlabel).1

theorem ofJson_address {bs : List UInt8} {b : Bundle α} (h : Bundle.ofJson bs = .ok b) :
    Text.trim b.address = b.address := by
  unfold Bundle.ofJson at h
  cases hv : Json.read Json.bundleNesting bs with
  | error e => rw [hv] at h; exact nomatch h
  | ok v =>
    rw [hv] at h
    have hbundle : Bundle.ofValue .json v = .ok b := mapError_eq_ok.mp h
    unfold Bundle.ofValue at hbundle
    cases hr : Check.record .json "ContractAnalysisBundle" [] v with
    | error p => rw [hr] at hbundle; exact nomatch hbundle
    | ok fs =>
      rw [hr] at hbundle
      exact ofFields_address hbundle

theorem forScan_address {source : BundleSource} {b : Bundle α}
    (h : Bundle.forScan source = .ok b) : Text.trim b.address = b.address := by
  cases source with
  | text s => exact ofJson_address h
  | bytes bs => exact ofJson_address h
  | data v =>
    cases v with
    | text s => exact ofJson_address h
    | map es => exact ofFields_address (mapError_eq_ok.mp h)
    | _ => exact nomatch h

/-! ## scans with other subscriptions -/

/-- what is made of the leads depends on the supply of identifiers alone -/
theorem gather_same (b : Bundle α) (scanId : String) (ls : List (Lead α)) (h h' : Hub α)
    (hsupply : h'.supply = h.supply) :
    (gather b scanId ls h').1 = (gather b scanId ls h).1 ∧
      (gather b scanId ls h').2.supply = (gather b scanId ls h).2.supply := by
  induction ls generalizing h h' with
  | nil => exact ⟨rfl, hsupply⟩
  | cons l ls ih =>
    unfold gather
    simp only [Hub.takeId, hsupply]
    cases l.finding h.supply.next b with
    | error problems => exact ⟨rfl, rfl⟩
    | ok f =>
      obtain ⟨houtcome, hrest⟩ := ih
        (Hub.announce { h with supply := h.supply.advance } f b scanId)
        (Hub.announce { h' with supply := h.supply.advance } f b scanId) rfl
      exact ⟨congrArg (Except.map (f :: ·)) houtcome, hrest⟩

theorem escalate_same (b : Bundle α) (scanId : String) (p : RiskProfile α) (fs : List (Finding α))
    (h h' : Hub α) (hsupply : h'.supply = h.supply) :
    (escalate b scanId p fs h').1 = (escalate b scanId p fs h).1 := by
  unfold escalate
  cases p.needsEscalation with
  | false => rfl
  | true => simp only [Hub.takeId, hsupply]; rfl

theorem finish_same (timeout timeout' : α) (b : Bundle α) (scanId : String) (s : Screening α)
    {asked asked' : List (Asked α)} {h h' : Hub α} (hleads : leads s asked' = leads s asked)
    (hfailed : failedIds asked' = failedIds asked) (hsupply : h'.supply = h.supply) :
    (finish timeout' b scanId s asked' h').1 = (finish timeout b scanId s asked h).1 := by
  let c := Context.ofScan scanId b.address
  obtain ⟨houtcome, hrest⟩ := gather_same b scanId (leads s asked)
    (h.write (detectorNotes c timeout asked)) (h'.write (detectorNotes c timeout' asked')) hsupply
  unfold finish
  dsimp only
  rw [hleads, hfailed]
  generalize gather b scanId (leads s asked) (h.write (detectorNotes c timeout asked)) = x
    at houtcome hrest
  generalize gather b scanId (leads s asked) (h'.write (detectorNotes c timeout' asked')) = x'
    at houtcome hrest
  obtain ⟨outcome, k⟩ := x
  obtain ⟨outcome', k'⟩ := x'
  dsimp only at houtcome hrest
  subst houtcome
  cases outcome' with
  | error problems => rfl
  | ok fs =>
    dsimp only
    rw [escalate_same b scanId (.ofFindings fs) fs k k' hrest]

/-- two scans with the same patterns whose detectors answered alike give the same report, however much
time there was for the answers -/
theorem scanWith_same {timeout timeout' : α} {ds : List (Detector α (Hub α))} {b : Bundle α}
    {h h' : Hub α} {as : List (Option (Answer α))} {polled polled' : Hub α}
    (hregistry : h'.registry = h.registry) (hsupply : h'.supply = h.supply)
    (hp : Poll timeout b ds (h.started b) as polled)
    (hp' : Poll timeout' b ds (h'.started b) as polled') (hpolled : polled'.supply = polled.supply) :
    (scanWith timeout' ds b h').1 = (scanWith timeout ds b h).1 := by
  obtain ⟨hhub, hleads, hfailed⟩ := askAll_leads hp
  obtain ⟨hhub', hleads', hfailed'⟩ := askAll_leads hp'
  rw [scanWith_eq, scanWith_eq, hsupply, hregistry, hhub, hhub']
  rw [hregistry] at hleads'
  exact finish_same timeout timeout' b _ _ (hleads'.trans hleads.symm) (hfailed'.trans hfailed.symm)
    hpolled

/-! ### detectors that do not look at the bus -/

/-- two hubs that differ in nothing but the bus and the diary -/
structure Hub.Alike (h h' : Hub α) : Prop where
  registry : h'.registry = h.registry
  supply : h'.supply = h.supply
  now : h'.now = h.now

/-- what the detector answers and does is the same, whatever is on the bus and in the diary -/
def Detector.Aloof (b : Bundle α) (d : Detector α (Hub α)) : Prop :=
  ∀ h h' : Hub α, h.Alike h' →
    (d.analyze b h').1 = (d.analyze b h).1 ∧ (d.analyze b h).2.Alike (d.analyze b h').2

theorem Poll.alike {timeout : α} {b : Bundle α} {ds : List (Detector α (Hub α))}
    {as : List (Option (Answer α))} {h h' k : Hub α} (hp : Poll timeout b ds h as h')
    (hds : ∀ d ∈ ds, d.Aloof b) (hk : h.Alike k) :
    ∃ k', Poll timeout b ds k as k' ∧ h'.Alike k' := by
  induction hp generalizing k with
  | nil h => exact ⟨k, .nil k, hk⟩
  | @cons d ds a as h h' h'' hr _ ih =>
    have hrest : ∀ d ∈ ds, d.Aloof b := fun d hd => hds d (List.mem_cons_of_mem _ hd)
    obtain ⟨k', hr', hk'⟩ : ∃ k', Response timeout b d k a k' ∧ h'.Alike k' := by
      cases hr with
      | passed happlies => exact ⟨k, .passed happlies, hk⟩
      | broken happlies => exact ⟨k, .broken happlies, hk⟩
      | late happlies htime => exact ⟨k, .late happlies htime, hk⟩
      | reply happlies htime =>
        obtain ⟨hreply, hafter⟩ := hds d List.mem_cons_self h k hk
        exact ⟨(d.analyze b k).2, hreply ▸ .reply happlies htime, hafter⟩
    obtain ⟨k'', hpoll, hk''⟩ := ih hrest hk'
    exact ⟨k'', .cons hr' hpoll, hk''⟩

/-- detectors that leave the bus alone leave it as it was before the scan -/
theorem Poll.bus_eq {timeout : α} {b : Bundle α} {ds : List (Detector α (Hub α))}
    {as : List (Option (Answer α))} {h h' : Hub α} (hp : Poll timeout b ds h as h')
    (hds : ∀ d ∈ ds, ∀ k, (d.analyze b k).2.bus = k.bus) : h'.bus = h.bus := by
  refine hp.invariant (P := fun k => k.bus = h.bus) (fun d hd k hk => ?_) rfl
  rw [hds d hd k, hk]

/-! ## the publication of a scan -/

/-- the same engine with other subscriptions -/
def Engine.withBus (e : Engine α) (bus : Bus α) : Engine α := { e with hub := { e.hub with bus } }

theorem Engine.scanSubject_withBus {e : Engine α} {s : Subject α} {b : Bundle α} (bus : Bus α)
    {as : List (Option (Answer α))} {polled polled' : Hub α} (hb : s.bundle? = .ok b)
    (hp : Poll e.timeout b e.detectors (e.hub.started b) as polled)
    (hp' : Poll e.timeout b e.detectors ((e.withBus bus).hub.started b) as polled')
    (hpolled : polled'.supply = polled.supply) :
    ((e.withBus bus).scanSubject s).1 = (e.scanSubject s).1 := by
  rw [scanSubject_of_ok hb, scanSubject_of_ok hb]
  exact congrArg (Except.mapError ScanFault.finding) (scanWith_same rfl rfl hp hp' hpolled)

/-- **What a scan publishes.** `polled` is the hub when the detectors have been asked: what was read or
published until then has come before the events of the scan, and if the detectors left the bus alone, it
is the bus from before the scan. -/
theorem scanSubject_publishes (e : Engine α) (s : Subject α) (r : Report α)
    (hs : (e.scanSubject s).1 = .ok r) :
    ∃ b as polled rules signals summary events,
      s.bundle? = .ok b ∧ (∀ source, s = .source source → Text.trim b.address = b.address) ∧
      Poll e.timeout b e.detectors (e.hub.started b) as polled ∧
      ((∀ d ∈ e.detectors, ∀ k, (d.analyze b k).2.bus = k.bus) → polled.bus = e.hub.bus) ∧
      Expected b e.hub.registry.patterns e.detectors as rules signals summary ∧
      (summary ≠ [] ↔ r.escalated = true) ∧
      List.Forall₂ (Event.Tells b.address r.scanId) (rules ++ signals ++ summary) events ∧
      (events.map (·.findingId)).Perm (r.findings.map (·.findingId)) ∧
      (e.scanSubject s).2.hub.bus.queues = polled.bus.queues.map (·.hearAll events) ∧
      (∀ i q, polled.bus.queue? i = some q →
        ∃ q', (e.scanSubject s).2.hub.bus.queue? i = some q' ∧ q.Took events q') ∧
      (∀ bus polled', Poll e.timeout b e.detectors ((e.withBus bus).hub.started b) as polled' →
        polled'.supply = polled.supply → ((e.withBus bus).scanSubject s).1 = .ok r) ∧
      ((∀ d ∈ e.detectors, d.Aloof b) → ∀ bus, ((e.withBus bus).scanSubject s).1 = .ok r) := by
  obtain ⟨b, hb, hok⟩ := Engine.scanSubject_eq_ok hs
  obtain ⟨as, polled, fs, hpoll, hcase⟩ := scanWith_spec e.timeout e.detectors b e.hub
  rcases hcase with ⟨r', summary, hr', hc, hbus⟩ | ⟨problems, herror, _⟩
  · obtain rfl : r' = r := Except.ok.inj (hr'.symm.trans hok)
    obtain ⟨rules, signals, rfl, hexpected⟩ := hc.expected
    rw [← hc.scanId] at hbus
    have hqueues : (e.scanSubject s).2.hub.bus.queues = polled.bus.queues.map
        (·.hearAll (eventsOf polled.now b.address r'.scanId (rules ++ signals ++ summary))) := by
      rw [Engine.scanSubject_of_ok hb]
      exact (congrArg Bus.queues hbus).trans (publishAll_queues _ _)
    refine ⟨b, as, polled, rules, signals, summary, _, hb, ?_, hpoll, hpoll.bus_eq, hexpected, ?_,
      tells_eventsOf polled.now b.address r'.scanId _, ?_, hqueues, ?_, ?_, ?_⟩
    · rintro source rfl
      exact forScan_address hb
    · rw [hc.escalated, hc.risk]
      rcases hc.summary with ⟨hp, _, rfl⟩ | ⟨hp, rfl⟩
      · simp [hp]
      · simp [hp]
    · rw [eventsOf, List.map_map]
      exact (hc.findings_perm.symm.map _)
    · intro i q hq
      refine ⟨_, ?_, q.took _⟩
      show (e.scanSubject s).2.hub.bus.queues[i]? = _
      rw [hqueues, List.getElem?_map, show polled.bus.queues[i]? = some q from hq]
      rfl
    · intro bus polled' hpoll' hsupply
      rw [Engine.scanSubject_withBus bus hb hpoll hpoll' hsupply, hs]
    · intro hds bus
      have hstarted : (e.hub.started b).Alike ((e.withBus bus).hub.started b) := ⟨rfl, rfl, rfl⟩
      obtain ⟨polled', hpoll', halike⟩ := hpoll.alike hds hstarted
      rw [Engine.scanSubject_withBus bus hb hpoll hpoll' halike.supply, hs]
  · exact nomatch herror.symm.trans hok

/-- four critical patterns and a detector, and a subscriber with room for three more events -/
def crowdedEngine : Engine ℚ :=
  let e := Sample.engine
    (Sample.patterns (["A", "B", "C", "D"].map fun id => (id, .critical, fun _ => .ok (.holds true))))
    [Sample.detector "sure" (1 / 2) 1 (.signal ⟨3 / 4, [], none, []⟩)]
  let earlier : Event ℚ := ⟨"threat_detected", "0", .low, .honeypot, "0x0", "X", 0, "0", 0⟩
  e.withBus ((e.hub.bus.subscribe (some 4)).2.publish earlier)

theorem scanSubject_publishes_crowded :
    ∃ r q, (crowdedEngine.scanSubject (.bundle Sample.bundle)).1 = .ok r ∧ r.escalated = true ∧
      (crowdedEngine.scanSubject (.bundle Sample.bundle)).2.hub.bus.queue? 0 = some q ∧
      q.pending.length = 4 ∧ q.dropped = 3 ∧
      ((crowdedEngine.withBus (.ofStandard 0)).scanSubject (.bundle Sample.bundle)).1 = .ok r := by
  have houtcome : (crowdedEngine.scanSubject (.bundle Sample.bundle)).1.toOption.map (·.escalated) =
      some true := by decide +kernel
  have hquiet : ∀ d ∈ crowdedEngine.detectors, ∀ k, (d.analyze Sample.bundle k).2.bus = k.bus := by
    intro d hd k
    rw [List.mem_singleton.mp hd]
    rfl
  have haloof : ∀ d ∈ crowdedEngine.detectors, d.Aloof Sample.bundle := by
    intro d hd k k' halike
    rw [List.mem_singleton.mp hd]
    exact ⟨rfl, halike⟩
  have hanswered : Poll crowdedEngine.timeout Sample.bundle crowdedEngine.detectors
      (crowdedEngine.hub.started Sample.bundle) [some (.reply (.signal ⟨3 / 4, [], none, []⟩))]
      (crowdedEngine.hub.started Sample.bundle) := .cons (.reply rfl (by decide)) (.nil _)
  cases hs : (crowdedEngine.scanSubject (.bundle Sample.bundle)).1 with
  | error f =>
    rw [hs] at houtcome
    exact nomatch houtcome
  | ok r =>
    rw [hs] at houtcome
    have hescalated : r.escalated = true := Option.some.inj houtcome
    obtain ⟨b, as, polled, rules, signals, summary, events, hb, _, hpoll, hbus, hexpected, hsummary,
      htells, _, _, htook, _, hother⟩ :=
      scanSubject_publishes crowdedEngine (.bundle Sample.bundle) r hs
    obtain rfl : Sample.bundle = b := Except.ok.inj hb
    obtain ⟨rfl, rfl⟩ := hpoll.unique hanswered
    have hrules : rules.length = 4 := hexpected.ofMatches.length_eq.symm.trans (by decide)
    have hsignals : signals.length = 1 := hexpected.ofSignals.length_eq.symm.trans (by decide +kernel)
    have hone : summary.length = 1 := by
      rcases hexpected.ofProfile with ⟨_, _, rfl⟩ | ⟨_, rfl⟩
      · rfl
      · exact absurd rfl (hsummary.mpr hescalated)
    have hevents : events.length = 6 := by
      rw [← htells.length_eq, List.length_append, List.length_append, hrules, hsignals, hone]
    obtain ⟨q, hq, htaken⟩ := htook 0 _ (by rw [hbus hquiet]; rfl)
    obtain ⟨hpending, hdropped⟩ := htaken.bounded rfl (by decide)
    refine ⟨r, q, rfl, hescalated, hq, ?_, ?_, hother haloof _⟩
    · rw [hpending, List.length_append, List.length_take, hevents]
      rfl
    · rw [hdropped, hevents]
      rfl

end ContractRisk
