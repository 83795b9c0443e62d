import ContractRisk.Engine
import ContractRisk.Proofs.Scan.Screening

/-!
# How detectors are polled

`Response` says what asking one detector may lead to, and `Poll` lines up the responses of many: each
detector is asked in the state that the ones before it left, whatever came of them. A poll has one
outcome (`Poll.unique`), and `askAll` takes it:

* `askAll_spec`   there is a poll that ends in the hub of `askAll`; its contributions are the leads and
  its failures the identifiers that a scan takes from what was asked, both in the order of the
  detectors.
* `Poll.invariant`   what the analysis of every detector keeps is kept by a poll.
* `Poll.eq_of_pure`   detectors that only answer leave the hub as it was.
-/

namespace ContractRisk

variable {α : Type} [Scalar α]

/-! ## one detector -/

/-- asking a detector: no answer if it does not apply, a fault in place of one if it cannot say whether
it does, no time to ask it, or its reply -/
inductive Response (timeout : α) (b : Bundle α) (d : Detector α (Hub α)) (h : Hub α) :
    Option (Answer α) → Hub α → Prop
  | passed : d.applies b = .ok false → Response timeout b d h none h
  | broken {f : Fault} : d.applies b = .error f → Response timeout b d h (some (.broken f)) h
  | late : d.applies b = .ok true → timeout ≤ Scalar.ofInt 0 →
      Response timeout b d h (some .late) h
  | reply : d.applies b = .ok true → ¬ timeout ≤ Scalar.ofInt 0 →
      Response timeout b d h (some (.reply (d.analyze b h).1)) (d.analyze b h).2

/-- the signal of a detector that crosses its threshold -/
def contribution? (a : Detector α (Hub α) × Option (Answer α)) :
    Option (Detector α (Hub α) × Signal α) :=
  match a.2 with
  | some (.reply (.signal s)) => if a.1.threshold < s.confidence then some (a.1, s) else none
  | _ => none

/-- the identifier of a detector that was not passed over and gave no signal -/
def failure? (a : Detector α (Hub α) × Option (Answer α)) : Option String :=
  match a.2 with
  | none | some (.reply (.signal _)) => none
  | some _ => some a.1.id

section
variable {timeout : α} {b : Bundle α} {d : Detector α (Hub α)} {h : Hub α}

theorem response_ask (timeout : α) (b : Bundle α) (d : Detector α (Hub α)) (h : Hub α) :
    Response timeout b d h (ask timeout b d h).1 (ask timeout b d h).2 := by
  unfold ask
  cases happlies : d.applies b with
  | error f => exact .broken happlies
  | ok applies =>
    cases applies with
    | false => exact .passed happlies
    | true =>
      by_cases htime : timeout ≤ Scalar.ofInt 0
      · simp only [htime, if_true]
        exact .late happlies htime
      · simp only [htime, if_false]
        exact .reply happlies htime

theorem Response.eq_ask {a : Option (Answer α)} {h' : Hub α} (hr : Response timeout b d h a h') :
    ask timeout b d h = (a, h') := by
  unfold ask
  cases hr with
  | passed happlies => rw [happlies]
  | broken happlies => rw [happlies]
  | late happlies htime => rw [happlies]; simp only [htime, if_true]
  | reply happlies htime => rw [happlies]; simp only [htime, if_false]

/-- an answer adds its contribution to the leads and its failure to the failed detectors -/
theorem asked_one (a : Option (Answer α)) :
    signalLeads ((a.map fun a => (d, a)).toList) =
        (contribution? (d, a)).toList.map (fun c => .signal c.1 c.2) ∧
      failedIds ((a.map fun a => (d, a)).toList) = (failure? (d, a)).toList := by
  rcases a with _ | f | (s | reason | f | _) | _
  · exact ⟨rfl, rfl⟩
  · exact ⟨rfl, rfl⟩
  · refine ⟨?_, rfl⟩
    by_cases hs : d.threshold < s.confidence
    · simp [signalLeads, contribution?, Answer.signal?, Detector.exceeds, hs]
    · simp [signalLeads, contribution?, Answer.signal?, Detector.exceeds, hs]
  · exact ⟨rfl, rfl⟩
  · exact ⟨rfl, rfl⟩
  · exact ⟨rfl, rfl⟩
  · exact ⟨rfl, rfl⟩

end

/-! ## many detectors -/

/-- the responses of detectors that are asked one after the other -/
inductive Poll (timeout : α) (b : Bundle α) :
    List (Detector α (Hub α)) → Hub α → List (Option (Answer α)) → Hub α → Prop
  | nil (h : Hub α) : Poll timeout b [] h [] h
  | cons {d : Detector α (Hub α)} {ds : List (Detector α (Hub α))} {a : Option (Answer α)}
      {as : List (Option (Answer α))} {h h' h'' : Hub α} :
      Response timeout b d h a h' → Poll timeout b ds h' as h'' →
      Poll timeout b (d :: ds) h (a :: as) h''

/-- the signals of a poll that cross the thresholds -/
def contributions (ds : List (Detector α (Hub α))) (as : List (Option (Answer α))) :
    List (Detector α (Hub α) × Signal α) :=
  (ds.zip as).filterMap contribution?

/-- the detectors that gave no signal in a poll, except those that did not apply -/
def failures (ds : List (Detector α (Hub α))) (as : List (Option (Answer α))) : List String :=
  (ds.zip as).filterMap failure?

section
variable {timeout : α} {b : Bundle α} {ds : List (Detector α (Hub α))}
  {as : List (Option (Answer α))} {h h' : Hub α}

theorem Poll.length_eq (hp : Poll timeout b ds h as h') : as.length = ds.length := by
  induction hp with
  | nil _ => rfl
  | cons _ _ ih => rw [List.length_cons, List.length_cons, ih]

/-- what came of the detectors is settled by the state in which the first one is asked -/
theorem Poll.unique {as' : List (Option (Answer α))} {h'' : Hub α} (hp : Poll timeout b ds h as h')
    (hp' : Poll timeout b ds h as' h'') : as = as' ∧ h' = h'' := by
  induction hp generalizing as' h'' with
  | nil _ => cases hp'; exact ⟨rfl, rfl⟩
  | cons hr _ ih =>
    cases hp' with
    | cons hr' hp' =>
      obtain ⟨rfl, rfl⟩ := Prod.ext_iff.mp (hr.eq_ask.symm.trans hr'.eq_ask)
      obtain ⟨rfl, rfl⟩ := ih hp'
      exact ⟨rfl, rfl⟩

theorem Response.invariant {P : Hub α → Prop} {d : Detector α (Hub α)} {a : Option (Answer α)}
    (hr : Response timeout b d h a h') (hd : ∀ k, P k → P (d.analyze b k).2) (hstart : P h) : P h' := by
  cases hr with
  | reply _ _ => exact hd h hstart
  | _ => exact hstart

/-- what the analysis of every detector keeps is kept by a poll -/
theorem Poll.invariant {P : Hub α → Prop} (hp : Poll timeout b ds h as h')
    (hds : ∀ d ∈ ds, ∀ k, P k → P (d.analyze b k).2) (hstart : P h) : P h' := by
  induction hp with
  | nil _ => exact hstart
  | cons hr _ ih =>
    obtain ⟨hd, hds⟩ := List.forall_mem_cons.mp hds
    exact ih hds (hr.invariant hd hstart)

theorem mem_contributions {c : Detector α (Hub α) × Signal α} (hc : c ∈ contributions ds as) :
    (c.1, some (.reply (.signal c.2))) ∈ ds.zip as ∧ c.1.threshold < c.2.confidence := by
  obtain ⟨⟨d, a⟩, hmem, heq⟩ := List.mem_filterMap.mp hc
  unfold contribution? at heq
  split at heq
  · next s hs =>
    split at heq
    · next hlt =>
      cases heq
      dsimp only at hs
      subst hs
      exact ⟨hmem, hlt⟩
    · cases heq
  · cases heq

theorem mem_of_mem_contributions {c : Detector α (Hub α) × Signal α}
    (hc : c ∈ contributions ds as) : c.1 ∈ ds := (List.of_mem_zip (mem_contributions hc).1).1

/-- a signal of a poll is one that the detector gave in some state -/
theorem Poll.exists_analyze (hp : Poll timeout b ds h as h') {d : Detector α (Hub α)} {s : Signal α}
    (hmem : (d, some (.reply (.signal s))) ∈ ds.zip as) : ∃ k, (d.analyze b k).1 = .signal s := by
  induction hp with
  | nil _ => exact nomatch hmem
  | @cons d' ds a as h h' h'' hr _ ih =>
    rw [List.zip_cons_cons] at hmem
    rcases List.mem_cons.mp hmem with heq | hmem
    · obtain ⟨rfl, ha⟩ := Prod.mk.inj heq
      subst ha
      generalize ha : some (Answer.reply (Reply.signal s)) = a at hr
      cases hr with
      | passed _ => exact nomatch ha
      | broken _ => exact nomatch ha
      | late _ _ => exact nomatch ha
      | reply _ _ => exact ⟨h, (Answer.reply.inj (Option.some.inj ha)).symm⟩
    · exact ih hmem

theorem signalLeads_append (xs ys : List (Asked α)) :
    signalLeads (xs ++ ys) = signalLeads xs ++ signalLeads ys := List.filterMap_append

omit [Scalar α] in
theorem failedIds_append (xs ys : List (Asked α)) :
    failedIds (xs ++ ys) = failedIds xs ++ failedIds ys := by
  unfold failedIds
  rw [List.filter_append, List.map_append]

end

theorem askAll_spec (timeout : α) (b : Bundle α) (ds : List (Detector α (Hub α))) (h : Hub α) :
    ∃ as, Poll timeout b ds h as (askAll timeout b ds h).2 ∧
      signalLeads (askAll timeout b ds h).1 =
        (contributions ds as).map (fun c => .signal c.1 c.2) ∧
      failedIds (askAll timeout b ds h).1 = failures ds as := by
  induction ds generalizing h with
  | nil => exact ⟨[], .nil h, rfl, rfl⟩
  | cons d ds ih =>
    obtain ⟨as, hpoll, hleads, hfailed⟩ := ih (ask timeout b d h).2
    obtain ⟨hlead, hfail⟩ := asked_one (d := d) (ask timeout b d h).1
    refine ⟨(ask timeout b d h).1 :: as, .cons (response_ask timeout b d h) hpoll, ?_, ?_⟩
    · unfold askAll contributions
      rw [signalLeads_append, hlead, hleads, List.zip_cons_cons, filterMap_cons_toList,
        List.map_append]
      rfl
    · unfold askAll failures
      rw [failedIds_append, hfail, hfailed, List.zip_cons_cons, filterMap_cons_toList]
      rfl

/-! ## detectors that only answer -/

/-- the detector answers by the bundle alone and does nothing else -/
def Detector.Pure (d : Detector α (Hub α)) : Prop :=
  ∃ reply : Bundle α → Reply α, ∀ b h, d.analyze b h = (reply b, h)

theorem Poll.eq_of_pure {timeout : α} {b : Bundle α} {ds : List (Detector α (Hub α))}
    {as : List (Option (Answer α))} {h h' : Hub α} (hp : Poll timeout b ds h as h')
    (hds : ∀ d ∈ ds, d.Pure) : h' = h := by
  refine hp.invariant (P := (· = h)) (fun d hd k hk => ?_) rfl
  obtain ⟨reply, hreply⟩ := hds d hd
  rw [hreply, hk]

theorem Detector.standard_pure :
    ∀ d ∈ (Detector.standard : List (Detector α (Hub α))), d.Pure := by
  unfold Detector.standard
  simp only [List.forall_mem_cons, List.not_mem_nil, false_implies, implies_true, and_true]
  exact ⟨⟨_, fun _ _ => rfl⟩, ⟨_, fun _ _ => rfl⟩, ⟨_, fun _ _ => rfl⟩⟩

end ContractRisk
