import ContractRisk.Proofs.Number.Fraction
import ContractRisk.Proofs.Scan.Findings

/-!
# When a scan is escalated

`Report.tally` counts the findings of a severity apart from the one that an escalation adds. The profile
of a report is made of these counts, whatever the numbers are computed in (`Completes.tally_eq`), since
no pattern and no detector uses the identifier of an escalation.

* `scanSubject_escalation`   over exact fractions, a report is escalated exactly if
  `15 * high + 29 * medium + 39 * low < 5 * critical`, and then holds one finding more than it counts.
-/

namespace ContractRisk

section
variable {α : Type} [Scalar α]

/-- how many findings of a severity there are, apart from the one of an escalation -/
def Report.tally (r : Report α) (s : Severity) : Nat :=
  r.findings.countP fun f => f.patternId ≠ Finding.escalationId ∧ f.severity = s

omit [Scalar α] in
theorem patternId_ne_escalationId {σ : Type} (d : Detector α σ) :
    d.patternId ≠ Finding.escalationId := by
  intro h
  have hlist : "ML:".toList ++ d.id.toList = "META001".toList := by
    rw [← String.toList_append]
    exact congrArg String.toList h
  have hmark : "ML:".toList = ['M', 'L', ':'] := by decide
  have hmeta : "META001".toList = ['M', 'E', 'T', 'A', '0', '0', '1'] := by decide
  rw [hmark, hmeta] at hlist
  have hsecond := (List.cons.inj (List.cons.inj hlist).2).1
  exact absurd hsecond (by decide)

/-! ## the parts of a report -/

section
variable {timeout : α} {ds : List (Detector α (Hub α))} {b : Bundle α} {h : Hub α}
  {as : List (Option (Answer α))} {polled : Hub α} {fs extra : List (Finding α)} {r : Report α}

theorem Completes.patternId_ne (hc : Completes timeout ds b h as polled fs extra r)
    (hr : h.registry.Reachable) : ∀ f ∈ fs, f.patternId ≠ Finding.escalationId := by
  obtain ⟨rules, signals, rfl, he⟩ := hc.expected
  intro f hf
  rcases List.mem_append.mp hf with hf | hf
  · have hid : f.patternId ∈ rules.map (·.patternId) := List.mem_map_of_mem hf
    rw [he.rules_patternId] at hid
    obtain ⟨p, hp, hid⟩ := List.mem_map.mp hid
    obtain ⟨d, hd⟩ := hr.defined p (List.mem_filter.mp hp).1
    have hfree := hd.not_isReserved
    rw [hid] at hfree
    intro h
    rw [h, isReserved_escalationId] at hfree
    exact nomatch hfree
  · obtain ⟨id, c, hfinding, _⟩ := he.of_mem_signals hf
    rw [hfinding.patternId]
    exact patternId_ne_escalationId c.1

theorem Completes.extra_patternId (hc : Completes timeout ds b h as polled fs extra r) :
    ∀ f ∈ extra, f.patternId = Finding.escalationId := by
  rcases hc.summary with ⟨_, id, rfl⟩ | ⟨_, rfl⟩
  · intro f hf
    rw [List.mem_singleton.mp hf]
    rfl
  · exact fun f hf => (nomatch hf)

theorem Completes.length_extra (hc : Completes timeout ds b h as polled fs extra r) :
    extra.length = if r.escalated then 1 else 0 := by
  rw [hc.escalated, hc.risk]
  rcases hc.summary with ⟨hp, id, rfl⟩ | ⟨hp, rfl⟩
  · rw [hp]; rfl
  · rw [hp]; rfl

theorem Completes.tally_eq (hc : Completes timeout ds b h as polled fs extra r)
    (hr : h.registry.Reachable) (s : Severity) : r.tally s = (fs.map (·.severity)).count s := by
  unfold Report.tally
  rw [hc.findings_perm.countP_eq, List.countP_append]
  have hextra : extra.countP (fun f => f.patternId ≠ Finding.escalationId ∧ f.severity = s) = 0 := by
    rw [List.countP_eq_zero]
    intro f hf
    simp [hc.extra_patternId f hf]
  rw [hextra, Nat.add_zero, List.count_eq_countP, List.countP_map]
  refine List.countP_congr fun f hf => ?_
  simp [hc.patternId_ne hr f hf]

/-- the profile counts the findings of each severity apart from the one of an escalation -/
theorem Completes.risk_eq (hc : Completes timeout ds b h as polled fs extra r)
    (hr : h.registry.Reachable) :
    r.risk.critical = r.tally .critical ∧ r.risk.high = r.tally .high ∧
      r.risk.medium = r.tally .medium ∧ r.risk.low = r.tally .low := by
  rw [hc.risk, hc.tally_eq hr, hc.tally_eq hr, hc.tally_eq hr, hc.tally_eq hr]
  exact ⟨rfl, rfl, rfl, rfl⟩

theorem Completes.total_eq_tally (hc : Completes timeout ds b h as polled fs extra r)
    (hr : h.registry.Reachable) :
    r.risk.total = r.tally .critical + r.tally .high + r.tally .medium + r.tally .low := by
  have hsum := count_severities (fs.map (·.severity))
  rw [← hc.tally_eq hr, ← hc.tally_eq hr, ← hc.tally_eq hr, ← hc.tally_eq hr] at hsum
  have htotal : r.risk.total = ((fs.map (·.severity)).length : Int) := by rw [hc.risk]; rfl
  omega

theorem Completes.length_findings (hc : Completes timeout ds b h as polled fs extra r) :
    (r.findings.length : Int) = r.risk.total + if r.escalated then 1 else 0 := by
  have htotal : r.risk.total = (fs.length : Int) := by
    rw [hc.risk]
    exact congrArg Nat.cast (List.length_map _)
  rw [hc.findings_perm.length_eq, List.length_append, hc.length_extra, htotal]
  push_cast
  rfl

/-- the identifier of an escalation occurs once in a report that is escalated, and never in another
one -/
theorem Completes.count_escalationId (hc : Completes timeout ds b h as polled fs extra r)
    (hr : h.registry.Reachable) :
    (r.findings.map (·.patternId)).count Finding.escalationId = if r.escalated then 1 else 0 := by
  have hfs : (fs.map (·.patternId)).count Finding.escalationId = 0 := by
    refine List.count_eq_zero.mpr fun hmem => ?_
    obtain ⟨f, hf, hid⟩ := List.mem_map.mp hmem
    exact hc.patternId_ne hr f hf hid
  have hextra : (extra.map (·.patternId)).count Finding.escalationId = extra.length := by
    rw [← List.length_map (f := (·.patternId)), List.count_eq_length]
    intro id hid
    obtain ⟨f, hf, rfl⟩ := List.mem_map.mp hid
    exact (hc.extra_patternId f hf).symm
  rw [(hc.findings_perm.map _).count_eq, List.map_append, List.count_append, hfs, hextra,
    hc.length_extra, Nat.zero_add]

end

end

/-! ## the criterion -/

/-- **When a scan is escalated**, and what its profile counts -/
theorem scanSubject_escalation (e : Engine ℚ) (s : Subject ℚ) (r : Report ℚ)
    (hr : e.hub.registry.Reachable) (hs : (e.scanSubject s).1 = .ok r) :
    (r.escalated = true ↔
      15 * r.tally .high + 29 * r.tally .medium + 39 * r.tally .low < 5 * r.tally .critical) ∧
    (Finding.escalationId ∈ r.findings.map (·.patternId) ↔ r.escalated = true) ∧
    (r.findings.map (·.patternId)).count Finding.escalationId ≤ 1 ∧
    (r.risk.critical = r.tally .critical ∧ r.risk.high = r.tally .high ∧
      r.risk.medium = r.tally .medium ∧ r.risk.low = r.tally .low) ∧
    r.risk.total = r.risk.critical + r.risk.high + r.risk.medium + r.risk.low ∧
    r.risk.total = r.findings.length - (if r.escalated then 1 else 0) ∧
    (r.risk.total = 0 → r.escalated = false) := by
  obtain ⟨b, _, hb⟩ := Engine.scanSubject_eq_ok hs
  obtain ⟨as, polled, fs, extra, hc⟩ := scanBundle_completes hb
  have hcount := hc.count_escalationId hr
  have hcriterion : r.escalated = true ↔ 15 * r.tally .high + 29 * r.tally .medium +
      39 * r.tally .low < 5 * r.tally .critical := by
    rw [hc.escalated, hc.risk, hc.tally_eq hr, hc.tally_eq hr, hc.tally_eq hr, hc.tally_eq hr]
    exact RiskProfile.needsEscalation_iff (fs.map (·.severity))
  have htotal := hc.total_eq_tally hr
  refine ⟨hcriterion, ?_, ?_, hc.risk_eq hr, ?_, ?_, ?_⟩
  · rw [← List.count_pos_iff, hcount]
    cases r.escalated <;> simp
  · rw [hcount]
    split <;> omega
  · obtain ⟨h1, h2, h3, h4⟩ := hc.risk_eq hr
    rw [h1, h2, h3, h4, htotal]
  · rw [hc.length_findings]
    omega
  · intro hzero
    cases hescalated : r.escalated with
    | false => rfl
    | true =>
      have h := hcriterion.mp hescalated
      omega

/-- three critical patterns and a high one that all match: a score of exactly 90 -/
def tiedEngine : Engine ℚ :=
  Sample.engine
    (Sample.patterns [("A", .critical, fun _ => .ok (.holds true)),
      ("B", .critical, fun _ => .ok (.holds true)), ("C", .critical, fun _ => .ok (.holds true)),
      ("D", .high, fun _ => .ok (.holds true))]) []

theorem tiedEngine_reachable : tiedEngine.hub.registry.Reachable :=
  Sample.reachable_patterns _ (by decide) (by decide +kernel)

theorem scanSubject_escalation_tie :
    ∃ r, (tiedEngine.scanSubject (.bundle Sample.bundle)).1 = .ok r ∧ r.risk.total = 4 ∧
      r.escalated = false := by
  have hcounts : ((tiedEngine.scanSubject (.bundle Sample.bundle)).1.toOption.map fun r =>
      (r.risk.critical, r.risk.high, r.risk.medium, r.risk.low)) = some (3, 1, 0, 0) := by
    decide +kernel
  cases hs : (tiedEngine.scanSubject (.bundle Sample.bundle)).1 with
  | error f =>
    rw [hs] at hcounts
    exact nomatch hcounts
  | ok r =>
    rw [hs] at hcounts
    simp only [Except.toOption, Option.map_some, Option.some.injEq, Prod.mk.injEq] at hcounts
    obtain ⟨hcritical, hhigh, hmedium, hlow⟩ := hcounts
    obtain ⟨hcriterion, _, _, ⟨h1, h2, h3, h4⟩, htotal, _, _⟩ :=
      scanSubject_escalation tiedEngine (.bundle Sample.bundle) r tiedEngine_reachable hs
    refine ⟨r, rfl, by omega, ?_⟩
    cases hescalated : r.escalated with
    | false => rfl
    | true =>
      have hlt := hcriterion.mp hescalated
      omega

end ContractRisk
