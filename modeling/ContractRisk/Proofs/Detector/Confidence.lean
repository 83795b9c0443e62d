import ContractRisk.Proofs.Detector.Senders
import ContractRisk.Proofs.Number.Extended
import ContractRisk.Proofs.Scan.Course
import Mathlib.Algebra.Order.BigOperators.Group.List

/-!
# Confidence of the standard detectors

Whatever the numbers of a bundle are, infinities and NaN among them, each of the detectors of the library
comes to a confidence in the unit interval, so that its reply is a signal (`Detector.Sure`):

* shares of social metrics are clamped, and their weighted mean lies among them (`Social.score_inUnit`);
* ratios count a part and a whole that is not zero (`Trading.confidence_inUnit`);
* misses of fingerprints are multiplied and never leave full confidence (`Bytecode.confidence_inUnit`).

`supplied_never_fail` adds what follows for scans that leave the detectors time.
-/

namespace ContractRisk

open Extended (InUnit finite)

theorem isUnit_of_inUnit {x : Extended} (h : x.InUnit) : isUnit x = true := by
  obtain ⟨q, rfl, h0, h1⟩ := h
  have hzero : Scalar.ofInt 0 ≤ finite q := (Extended.finite_le _ _).mpr (by exact_mod_cast h0)
  have hone : finite q ≤ Scalar.ofInt 1 := (Extended.finite_le _ _).mpr (by exact_mod_cast h1)
  unfold isUnit
  rw [decide_eq_true hzero, decide_eq_true hone]
  rfl

theorem Reply.ofSignal_of_inUnit {s : Signal Extended} (h : s.confidence.InUnit) :
    Reply.ofSignal s = .signal s := if_pos (isUnit_of_inUnit h)

/-! ## social sentiment -/

namespace Social

/-- whatever it is clamped from, a share is a number of the unit interval -/
theorem clamp_inUnit (x : Extended) : (clamp x).InUnit := by
  unfold clamp
  cases x with
  | nan => exact InUnit.zero.greater .one
  | infinite negative =>
    cases negative with
    | true => exact .zero
    | false => exact InUnit.zero.greater .one
  | finite q =>
    have hclamp : Scalar.greater (0.0 : Extended) (Scalar.lesser (1.0 : Extended) (finite q)) =
        finite (max 0.0 (min 1.0 q)) := by
      rw [← Extended.greater_finite, ← Extended.lesser_finite]
      rfl
    rw [hclamp]
    refine .of_fraction (le_max_of_le_left (by norm_num)) (max_le (by norm_num) ?_)
    exact (min_le_left _ _).trans (by norm_num)

theorem weight_finite (c : Channel) : (c.weight : Extended) = finite (c.weight : ℚ) := by
  cases c <;> rfl

theorem weight_pos (c : Channel) : (0 : ℚ) < c.weight := by
  cases c
  · show (0 : ℚ) < 0.40
    norm_num
  · show (0 : ℚ) < 0.35
    norm_num
  · show (0 : ℚ) < 0.25
    norm_num

theorem signals_inUnit {m : SocialMetrics Extended} {s : Channel × Extended} (hs : s ∈ signals m) :
    s.2.InUnit := by
  obtain ⟨e, _, he⟩ := List.mem_filterMap.mp hs
  obtain ⟨x, _, rfl⟩ := Option.map_eq_some_iff.mp he
  exact clamp_inUnit x

/-- the total weight of some signals -/
def weights (ss : List (Channel × Extended)) : ℚ := (ss.map fun s => (s.1.weight : ℚ)).sum

theorem sum_weights (ss : List (Channel × Extended)) :
    Scalar.sum (ss.map fun s => (s.1.weight : Extended)) = finite (weights ss) :=
  Extended.sum_finite fun s _ => weight_finite s.1

theorem weights_pos {ss : List (Channel × Extended)} (h : ss ≠ []) : 0 < weights ss := by
  refine List.sum_pos _ (fun w hw => ?_) (by simpa using h)
  obtain ⟨s, _, rfl⟩ := List.mem_map.mp hw
  exact weight_pos s.1

/-- the weighted mean of shares is a share -/
theorem score_inUnit {ss : List (Channel × Extended)} (hne : ss ≠ []) (hss : ∀ s ∈ ss, s.2.InUnit) :
    (score ss).InUnit := by
  have hsum : Scalar.sum (ss.map fun s => s.1.weight * s.2) =
      finite (ss.map fun s => s.1.weight * s.2.fraction).sum := by
    refine Extended.sum_finite fun s hs => ?_
    rw [weight_finite, (hss s hs).eq_finite]
    exact Extended.finite_mul _ _
  have h0 : 0 ≤ (ss.map fun s => s.1.weight * s.2.fraction).sum := by
    refine List.sum_nonneg fun p hp => ?_
    obtain ⟨s, hs, rfl⟩ := List.mem_map.mp hp
    exact mul_nonneg (weight_pos s.1).le (hss s hs).nonneg
  have hle : (ss.map fun s => s.1.weight * s.2.fraction).sum ≤ weights ss :=
    List.sum_le_sum fun s hs => mul_le_of_le_one_right (weight_pos s.1).le (hss s hs).le_one
  have hpos := weights_pos hne
  unfold score
  rw [hsum, sum_weights, Extended.finite_div _ hpos.ne']
  exact .of_fraction (div_nonneg h0 hpos.le) (div_le_one_of_le₀ hle hpos.le)

theorem confidence_inUnit (b : Bundle Extended) : (signal b).confidence.InUnit := by
  unfold signal
  cases hss : b.socialMetrics.elim [] signals with
  | nil => exact .zero
  | cons s ss =>
    refine score_inUnit (List.cons_ne_nil s ss) fun x hx => ?_
    rw [← hss] at hx
    cases hm : b.socialMetrics with
    | none =>
      rw [hm] at hx
      exact nomatch hx
    | some m =>
      rw [hm] at hx
      exact signals_inUnit hx

end Social

/-! ## transaction patterns -/

namespace Trading

theorem failed_le (ts : List (TransactionRecord Extended)) : (sells ts).failed ≤ (sells ts).all :=
  List.length_filter_le _ _

theorem failedRatio_inUnit (ts : List (TransactionRecord Extended)) :
    (failedRatio (sells ts) : Extended).InUnit := by
  unfold failedRatio
  by_cases h : enoughSells ≤ (sells ts).all
  · rw [if_pos h]
    exact .ratio (failed_le ts) (Nat.lt_of_lt_of_le Nat.two_pos h)
  · rw [if_neg h]
    exact .zero

theorem dominance_inUnit {ts : List (TransactionRecord Extended)} (h : enough ≤ ts.length) :
    (dominance (top? (counts (senders ts))) ts.length : Extended).InUnit := by
  rcases top?_counts (senders ts) with ⟨hnone, _⟩ | ⟨t, ht, htop⟩
  · rw [hnone]
    exact .zero
  · rw [ht]
    exact .ratio (htop.le_length.trans (length_senders_le ts)) (Nat.lt_of_lt_of_le (by decide) h)

theorem confidence_inUnit (b : Bundle Extended) : (signal b).confidence.InUnit := by
  unfold signal
  dsimp only
  split
  · exact .zero
  · next h =>
    have hshare := dominance_inUnit (not_lt.mp h)
    have hdiscount : (0.85 : Extended).InUnit := .of_fraction (q := 0.85) (by norm_num) (by norm_num)
    exact InUnit.one.lesser ((failedRatio_inUnit _).greater (hshare.mul hdiscount))

end Trading

/-! ## bytecode similarity -/

namespace Bytecode

theorem weight_inUnit : ∀ f ∈ (fingerprints : List (Fingerprint Extended)), f.weight.InUnit := by
  unfold fingerprints
  simp only [List.forall_mem_cons, List.not_mem_nil, false_implies, implies_true, and_true]
  refine ⟨?_, ?_, ?_, ?_, ?_⟩
  · exact .of_fraction (q := 0.80) (by norm_num) (by norm_num)
  · exact .of_fraction (q := 0.75) (by norm_num) (by norm_num)
  · exact .of_fraction (q := 0.60) (by norm_num) (by norm_num)
  · exact .of_fraction (q := 0.50) (by norm_num) (by norm_num)
  · exact .of_fraction (q := 0.50) (by norm_num) (by norm_num)

theorem exactConfidence_inUnit : (exactConfidence : Extended).InUnit :=
  .of_fraction (q := 0.99) (by norm_num) (by norm_num)

/-- the product of the misses -/
theorem miss_inUnit {fs : List (Fingerprint Extended)} (h : ∀ f ∈ fs, f.weight.InUnit) :
    ∀ m : Extended, m.InUnit →
      (fs.foldl (fun m f => m * ((1.0 : Extended) - f.weight)) m).InUnit := by
  induction fs with
  | nil => exact fun m hm => hm
  | cons f fs ih =>
    intro m hm
    rw [List.foldl_cons]
    exact ih (fun g hg => h g (List.mem_cons_of_mem f hg)) _ (hm.mul (h f List.mem_cons_self).complement)

theorem confidence_inUnit {fs : List (Fingerprint Extended)} (h : ∀ f ∈ fs, f.weight.InUnit) :
    (confidence fs).InUnit ∧ confidence fs ≤ exactConfidence := by
  unfold confidence
  dsimp only
  split
  · exact ⟨.of_fraction (q := ((0 : ℤ) : ℚ)) (by norm_num) (by norm_num),
      (Extended.finite_le _ _).mpr (by norm_num)⟩
  · have hone := (miss_inUnit h _ .one).complement
    exact ⟨exactConfidence_inUnit.lesser hone, exactConfidence_inUnit.lesser_le hone⟩

theorem signal_inUnit (known : List String) (b : Bundle Extended) :
    (signal known b).confidence.InUnit ∧ (signal known b).confidence ≤ exactConfidence := by
  refine signal_induction (P := fun s => s.confidence.InUnit ∧ s.confidence ≤ exactConfidence)
    (fun d => ?_) (fun code d => ?_) known b
  · exact ⟨exactConfidence_inUnit, (Extended.finite_le _ _).mpr le_rfl⟩
  · exact confidence_inUnit fun f hf => weight_inUnit f (List.mem_of_mem_filter hf)

end Bytecode

/-! ## the detectors of the library -/

variable {d : Detector Extended (Hub Extended)}

/-- a detector of the library, whatever builds it knows -/
inductive Detector.Supplied : Detector Extended (Hub Extended) → Prop
  | bytecode (known : List String) : Supplied (Bytecode.detector known)
  | social : Supplied Social.detector
  | trading : Supplied Trading.detector

/-- a detector that tells whether it applies, and gives a signal whether it does or not -/
structure Detector.Sure (d : Detector Extended (Hub Extended)) : Prop where
  applies : ∀ b, ∃ a, d.applies b = .ok a
  answers : ∀ b h, ∃ s : Signal Extended, d.analyze b h = (.signal s, h) ∧ s.confidence.InUnit

theorem Detector.Sure.of_signal {signal : Bundle Extended → Signal Extended}
    (happlies : ∀ b, ∃ a, d.applies b = .ok a)
    (hanalyze : ∀ b h, d.analyze b h = (.ofSignal (signal b), h))
    (hunit : ∀ b, (signal b).confidence.InUnit) : d.Sure where
  applies := happlies
  answers b h := by
    rw [hanalyze, Reply.ofSignal_of_inUnit (hunit b)]
    exact ⟨signal b, rfl, hunit b⟩

theorem Detector.Supplied.sure (hd : d.Supplied) : d.Sure := by
  cases hd with
  | bytecode known =>
    exact .of_signal (fun _ => ⟨_, rfl⟩) (fun _ _ => rfl) fun b => (Bytecode.signal_inUnit known b).1
  | social => exact .of_signal (fun _ => ⟨_, rfl⟩) (fun _ _ => rfl) Social.confidence_inUnit
  | trading => exact .of_signal (fun _ => ⟨_, rfl⟩) (fun _ _ => rfl) Trading.confidence_inUnit

theorem Detector.standard_supplied :
    ∀ d ∈ (Detector.standard : List (Detector Extended (Hub Extended))), d.Supplied := by
  unfold Detector.standard
  simp only [List.forall_mem_cons, List.not_mem_nil, false_implies, implies_true, and_true]
  exact ⟨.bytecode [], .social, .trading⟩

/-- a detector that is sure does not fail when it is given time -/
theorem Response.not_sure {timeout : Extended} {b : Bundle Extended} {h h' : Hub Extended}
    {a : Option (Answer Extended)} (hr : Response timeout b d h a h')
    (htime : ¬ timeout ≤ Scalar.ofInt 0) {id : String} (hid : failure? (d, a) = some id) :
    d.id = id ∧ ¬ d.Sure := by
  cases hr with
  | passed _ => exact nomatch hid
  | broken happlies =>
    refine ⟨Option.some.inj hid, fun hsure => ?_⟩
    obtain ⟨a, ha⟩ := hsure.applies b
    exact nomatch happlies.symm.trans ha
  | late _ hlate => exact absurd hlate htime
  | reply _ _ =>
    have hnot : ¬ d.Sure := by
      intro hsure
      obtain ⟨s, hs, _⟩ := hsure.answers b h
      rw [hs] at hid
      exact nomatch hid
    refine ⟨?_, hnot⟩
    unfold failure? at hid
    split at hid
    · exact nomatch hid
    · exact nomatch hid
    · exact Option.some.inj hid

/-- the failed detectors of a poll that is given time are none of the sure ones -/
theorem Poll.exists_of_mem_failures {timeout : Extended} {b : Bundle Extended}
    {ds : List (Detector Extended (Hub Extended))} {as : List (Option (Answer Extended))}
    {h h' : Hub Extended} (hp : Poll timeout b ds h as h') (htime : ¬ timeout ≤ Scalar.ofInt 0)
    {id : String} (hid : id ∈ failures ds as) : ∃ d ∈ ds, d.id = id ∧ ¬ d.Sure := by
  induction hp with
  | nil _ => exact nomatch hid
  | @cons d ds a as h h' h'' hr _ ih =>
    unfold failures at hid ih
    rw [List.zip_cons_cons, filterMap_cons_toList, List.mem_append, Option.mem_toList] at hid
    rcases hid with hid | hid
    · exact ⟨d, List.mem_cons_self, hr.not_sure htime hid⟩
    · obtain ⟨d', hd', hfailed⟩ := ih hid
      exact ⟨d', List.mem_cons_of_mem d hd', hfailed⟩

/-- **The detectors of the library never fail.** For every bundle each of them replies with a signal,
whether it applies or not, and the confidence of the signal lies in the unit interval, as do the quotients
it is made from, none of which divides by zero. A scan that leaves the detectors time has no failed ones
but those that are not of the library. -/
theorem supplied_never_fail (known : List String) (b : Bundle Extended) (h : Hub Extended) :
    (∃ s : Signal Extended, (Bytecode.detector known).analyze b h = (.signal s, h) ∧
      s.confidence.InUnit ∧ s.confidence ≤ 0.99) ∧
    (∃ s : Signal Extended, Social.detector.analyze b h = (.signal s, h) ∧ s.confidence.InUnit) ∧
    (∃ s : Signal Extended, Trading.detector.analyze b h = (.signal s, h) ∧ s.confidence.InUnit) ∧
    (∀ m, b.socialMetrics = some m → Social.signals m ≠ [] → (Social.score (Social.signals m)).InUnit) ∧
    (∀ ts, b.transactions = some ts → Trading.enough ≤ ts.length →
      (Trading.failedRatio (Trading.sells ts) : Extended).InUnit ∧
      (Trading.dominance (Trading.top? (Trading.counts (Trading.senders ts))) ts.length :
        Extended).InUnit) ∧
    ∀ (e : Engine Extended) (s : Subject Extended) (r : Report Extended),
      (e.scanSubject s).1 = .ok r → ¬ e.timeout ≤ Scalar.ofInt 0 →
      (∀ id ∈ r.failedDetectors, ∃ d ∈ e.detectors, d.id = id ∧ ¬ d.Supplied) ∧
      (e.detectors = Detector.standard → r.failedDetectors = []) := by
  have hbytecode := Bytecode.signal_inUnit known b
  refine ⟨⟨_, congrArg (·, h) (Reply.ofSignal_of_inUnit hbytecode.1), hbytecode⟩,
    Detector.Supplied.social.sure.answers b h, Detector.Supplied.trading.sure.answers b h, ?_, ?_, ?_⟩
  · exact fun m _ hne => Social.score_inUnit hne fun s hs => Social.signals_inUnit hs
  · exact fun ts _ h => ⟨Trading.failedRatio_inUnit ts, Trading.dominance_inUnit h⟩
  · intro e s r hs htime
    obtain ⟨b, _, hb⟩ := Engine.scanSubject_eq_ok hs
    obtain ⟨as, polled, fs, extra, hc⟩ := scanBundle_completes hb
    have hfailed : ∀ id ∈ r.failedDetectors, ∃ d ∈ e.detectors, d.id = id ∧ ¬ d.Supplied := by
      intro id hid
      rw [hc.failed] at hid
      obtain ⟨d, hd, hname, hnot⟩ := hc.poll.exists_of_mem_failures htime hid
      exact ⟨d, hd, hname, fun hsupplied => hnot hsupplied.sure⟩
    refine ⟨hfailed, fun hstandard => List.eq_nil_iff_forall_not_mem.mpr fun id hid => ?_⟩
    obtain ⟨d, hd, _, hnot⟩ := hfailed id hid
    rw [hstandard] at hd
    exact hnot (Detector.standard_supplied d hd)

/-- the social metrics are no numbers, and most transactions are failed sells of one sender -/
def strangeBundle : Bundle Extended :=
  let sell : TransactionRecord Extended := ⟨"", "0xA", "", .infinite true, "sell", false⟩
  ⟨"0x1", "ethereum", none, none, none, none, some [sell, sell, sell, sell, sell], none,
    some ⟨none, none, some .nan, some (.infinite false), some (.infinite true)⟩⟩

theorem supplied_never_fail_strange :
    ∃ r, ((Sample.engine [] Detector.standard).scanSubject (.bundle strangeBundle)).1 = .ok r ∧
      r.risk.total = 2 ∧ r.failedDetectors = [] := by
  have htwo : ((Sample.engine [] Detector.standard).scanSubject
      (.bundle strangeBundle)).1.toOption.any (·.risk.total = 2) = true := by decide +kernel
  obtain ⟨r, hr, htotal⟩ := exists_ok_of_any htwo
  obtain ⟨_, _, _, _, _, hscan⟩ :=
    supplied_never_fail [] strangeBundle (Sample.engine [] Detector.standard).hub
  exact ⟨r, hr, of_decide_eq_true htotal, (hscan _ _ r hr (by decide +kernel)).2 rfl⟩

end ContractRisk
