import ContractRisk.Detector.Social
import ContractRisk.Proofs.Detector.Confidence
import ContractRisk.Proofs.Number.Fraction
import Mathlib.Algebra.BigOperators.Ring.List
import Mathlib.Tactic.Ring

/-!
# The mean of the manipulation signals

Each metric of the social data that is present counts as a share of one, the organic growth by what it lacks
(`share`). In exact fractions the confidence of the detector is the mean of these shares by the weights of
their channels (`mean`), the weights of absent ones left out:

* `exists_share_le_mean`, `exists_mean_le_share`   it lies among the shares;
* `mean_le_of_worse`   it follows the metrics, and with it severity and evidence (`evidence_sublist`);
* `mean_put`   a metric that was missing moves it toward its share.

`sentiment_laws` states them of what the detector replies.
-/

namespace ContractRisk.Social

def Channel.all : List Channel := [.botFollowers, .coordinatedPosting, .inorganicGrowth]

theorem Channel.mem_all (c : Channel) : c ∈ all := by cases c <;> decide

/-- the metric of a channel -/
def metric? (m : SocialMetrics ℚ) : Channel → Option ℚ
  | .botFollowers => m.botFollowerPercentage
  | .coordinatedPosting => m.coordinatedPostingScore
  | .inorganicGrowth => m.organicGrowthScore

/-- the metrics with a value for that of a channel -/
def put (m : SocialMetrics ℚ) (c : Channel) (x : ℚ) : SocialMetrics ℚ :=
  match c with
  | .botFollowers => { m with botFollowerPercentage := some x }
  | .coordinatedPosting => { m with coordinatedPostingScore := some x }
  | .inorganicGrowth => { m with organicGrowthScore := some x }

/-- how much of a hundred speaks for manipulation -/
def portion (c : Channel) (x : ℚ) : ℚ :=
  match c with
  | .botFollowers | .coordinatedPosting => x / 100
  | .inorganicGrowth => (100 - x) / 100

/-- what a value of a metric counts for, as a share of one -/
def share (c : Channel) (x : ℚ) : ℚ := max 0 (min 1 (portion c x))

def share? (m : SocialMetrics ℚ) (c : Channel) : Option ℚ := (metric? m c).map (share c)

/-- does the second value speak for manipulation at least as much as the first? -/
def Raises (c : Channel) (x y : ℚ) : Prop :=
  match c with
  | .botFollowers | .coordinatedPosting => x ≤ y
  | .inorganicGrowth => y ≤ x

/-- the same metrics are present, and each speaks for manipulation at least as much as before -/
def Worse (m m' : SocialMetrics ℚ) : Prop := ∀ c, Option.Rel (Raises c) (metric? m c) (metric? m' c)

/-- the weight of all metrics that are present -/
def total (m : SocialMetrics ℚ) : ℚ :=
  (Channel.all.map fun c => ((share? m c).map fun _ => c.weight).getD 0).sum

/-- the shares of all metrics that are present, by their weight -/
def weighed (m : SocialMetrics ℚ) : ℚ :=
  (Channel.all.map fun c => ((share? m c).map (c.weight * ·)).getD 0).sum

/-- the mean of the shares by their weight -/
def mean (m : SocialMetrics ℚ) : ℚ := weighed m / total m

variable {m m' : SocialMetrics ℚ} {c : Channel} {x y : ℚ}

/-! ## shares -/

theorem portion_mono (h : Raises c x y) : portion c x ≤ portion c y := by
  cases c with
  | botFollowers => exact div_le_div_of_nonneg_right h (by norm_num)
  | coordinatedPosting => exact div_le_div_of_nonneg_right h (by norm_num)
  | inorganicGrowth => exact div_le_div_of_nonneg_right (sub_le_sub_left h 100) (by norm_num)

theorem share_mono (h : Raises c x y) : share c x ≤ share c y :=
  max_le_max le_rfl (min_le_min le_rfl (portion_mono h))

theorem share_unit (c : Channel) (x : ℚ) : 0 ≤ share c x ∧ share c x ≤ 1 :=
  ⟨le_max_left _ _, max_le zero_le_one (min_le_left _ _)⟩

theorem clamp_eq (x : ℚ) : clamp x = max 0 (min 1 x) := by
  have h0 : (Rat.ofScientific 0 true 1 : ℚ) = 0 := by norm_num
  have h1 : (Rat.ofScientific 10 true 1 : ℚ) = 1 := by norm_num
  unfold clamp
  rw [greater_eq_max, lesser_eq_min]
  show max (Rat.ofScientific 0 true 1 : ℚ) (min (Rat.ofScientific 10 true 1 : ℚ) x) = _
  rw [h0, h1]

/-- the signals are the shares of the metrics that are present -/
theorem signals_eq (m : SocialMetrics ℚ) :
    signals m = Channel.all.filterMap fun c => (share? m c).map fun x => (c, x) := by
  have hcast : (Scalar.ofInt 100 : ℚ) = 100 := Int.cast_ofNat 100
  have hportions : signals m = (Channel.all.map fun c => (c, (metric? m c).map (portion c))).filterMap
      fun e => e.2.map fun x => (e.1, clamp x) := by
    unfold signals
    simp only [hcast]
    rfl
  rw [hportions, List.filterMap_map]
  refine List.filterMap_congr fun c _ => ?_
  unfold share? share
  simp only [Function.comp_apply, Option.map_map, clamp_eq]
  rfl

theorem mem_signals_iff : (c, x) ∈ signals m ↔ share? m c = some x := by
  rw [signals_eq, List.mem_filterMap]
  constructor
  · rintro ⟨d, _, hd⟩
    obtain ⟨y, hy, heq⟩ := Option.map_eq_some_iff.mp hd
    obtain ⟨rfl, rfl⟩ := Prod.mk.inj heq
    exact hy
  · intro h
    exact ⟨c, c.mem_all, by rw [h]; rfl⟩

theorem signals_ne_nil (h : metric? m c ≠ none) : signals m ≠ [] := by
  obtain ⟨x, hx⟩ := Option.ne_none_iff_exists'.mp h
  have hshare : share? m c = some (share c x) := by
    unfold share?
    rw [hx]
    rfl
  exact List.ne_nil_of_mem (mem_signals_iff.mpr hshare)

/-! ## the mean -/

theorem sum_filterMap {β γ : Type} (f : β → Option γ) (g : γ → ℚ) (xs : List β) :
    ((xs.filterMap f).map g).sum = (xs.map fun x => ((f x).map g).getD 0).sum := by
  induction xs with
  | nil => rfl
  | cons x xs ih =>
    rw [List.map_cons, List.sum_cons, ← ih, List.filterMap_cons]
    cases f x with
    | none => exact (zero_add _).symm
    | some y => rfl

theorem sum_weights_eq_total (m : SocialMetrics ℚ) : ((signals m).map fun s => s.1.weight).sum = total m := by
  rw [signals_eq, sum_filterMap]
  simp only [Option.map_map]
  rfl

theorem sum_weighed (m : SocialMetrics ℚ) :
    ((signals m).map fun s => s.1.weight * s.2).sum = weighed m := by
  rw [signals_eq, sum_filterMap]
  simp only [Option.map_map]
  rfl

theorem score_eq_mean (m : SocialMetrics ℚ) : score (signals m) = mean m := by
  unfold score mean
  rw [sum_eq, sum_eq, sum_weights_eq_total, sum_weighed]

theorem total_pos (h : metric? m c ≠ none) : 0 < total m := by
  rw [← sum_weights_eq_total]
  refine List.sum_pos _ (fun w hw => ?_) (by simpa using signals_ne_nil h)
  obtain ⟨s, _, rfl⟩ := List.mem_map.mp hw
  exact weight_pos s.1

theorem weighed_eq (h : metric? m c ≠ none) : weighed m = mean m * total m :=
  (div_mul_cancel₀ _ (total_pos h).ne').symm

/-- if all metrics that are present had the mean for their share, the sum would be the same -/
theorem sum_mean (h : metric? m c ≠ none) :
    ((signals m).map fun s => s.1.weight * s.2).sum = ((signals m).map fun s => s.1.weight * mean m).sum := by
  rw [sum_weighed, weighed_eq h, ← sum_weights_eq_total, List.sum_map_mul_right, mul_comm]

theorem exists_share_le_mean (h : metric? m c ≠ none) : ∃ d x, share? m d = some x ∧ x ≤ mean m := by
  obtain ⟨s, hs, hle⟩ := List.exists_le_of_sum_le (signals_ne_nil h) (fun s => s.1.weight * s.2)
    (fun s => s.1.weight * mean m) (sum_mean h).le
  exact ⟨s.1, s.2, mem_signals_iff.mp hs, le_of_mul_le_mul_left hle (weight_pos s.1)⟩

theorem exists_mean_le_share (h : metric? m c ≠ none) : ∃ d x, share? m d = some x ∧ mean m ≤ x := by
  obtain ⟨s, hs, hle⟩ := List.exists_le_of_sum_le (signals_ne_nil h) (fun s => s.1.weight * mean m)
    (fun s => s.1.weight * s.2) (sum_mean h).ge
  exact ⟨s.1, s.2, mem_signals_iff.mp hs, le_of_mul_le_mul_left hle (weight_pos s.1)⟩

theorem share_unit_of_mem (h : share? m c = some x) : 0 ≤ x ∧ x ≤ 1 := by
  obtain ⟨y, _, rfl⟩ := Option.map_eq_some_iff.mp h
  exact share_unit c y

theorem mean_unit (h : metric? m c ≠ none) : 0 ≤ mean m ∧ mean m ≤ 1 := by
  obtain ⟨_, x, hx, hle⟩ := exists_share_le_mean h
  obtain ⟨_, y, hy, hge⟩ := exists_mean_le_share h
  exact ⟨(share_unit_of_mem hx).1.trans hle, hge.trans (share_unit_of_mem hy).2⟩

/-! ## metrics that speak more for manipulation -/

theorem Worse.shares (h : Worse m m') (c : Channel) : Option.Rel (· ≤ ·) (share? m c) (share? m' c) := by
  have hrel := h c
  unfold share?
  generalize metric? m c = a, metric? m' c = a' at hrel ⊢
  cases hrel with
  | some hraises => exact .some (share_mono hraises)
  | none => exact .none

theorem Worse.exists_le (h : Worse m m') (hx : share? m c = some x) : ∃ y, share? m' c = some y ∧ x ≤ y := by
  have hrel := h.shares c
  rw [hx] at hrel
  generalize share? m' c = a' at hrel ⊢
  cases hrel with
  | some hle => exact ⟨_, rfl, hle⟩

theorem Worse.present (h : Worse m m') (hm : metric? m c ≠ none) : metric? m' c ≠ none := by
  have hrel := h c
  generalize metric? m c = a, metric? m' c = a' at hrel hm ⊢
  cases hrel with
  | some _ => exact Option.some_ne_none _
  | none => exact absurd rfl hm

/-- the same channels are present, so they have the same weight -/
theorem Worse.total_eq (h : Worse m m') : total m' = total m := by
  unfold total
  congr 1
  refine List.map_congr_left fun c _ => ?_
  have hrel := h.shares c
  generalize share? m c = a, share? m' c = a' at hrel ⊢
  cases hrel <;> rfl

theorem Worse.weighed_le (h : Worse m m') : weighed m ≤ weighed m' := by
  unfold weighed
  refine List.sum_le_sum fun c _ => ?_
  have hrel := h.shares c
  generalize share? m c = a, share? m' c = a' at hrel ⊢
  cases hrel with
  | some hle => exact mul_le_mul_of_nonneg_left hle (weight_pos c).le
  | none => exact le_rfl

theorem mean_le_of_worse (h : Worse m m') (hm : metric? m c ≠ none) : mean m ≤ mean m' := by
  unfold mean
  rw [h.total_eq]
  exact div_le_div_of_nonneg_right h.weighed_le (total_pos hm).le

theorem isAbove_mono (h : Worse m m') {bound : ℚ} (ha : isAbove (signals m) c bound = true) :
    isAbove (signals m') c bound = true := by
  unfold isAbove at ha ⊢
  obtain ⟨⟨d, x⟩, hs, hx⟩ := List.any_eq_true.mp ha
  obtain ⟨hd, hbound⟩ := Bool.and_eq_true_iff.mp hx
  obtain ⟨y, hy, hle⟩ := h.exists_le (mem_signals_iff.mp hs)
  refine List.any_eq_true.mpr ⟨(d, y), mem_signals_iff.mpr hy, Bool.and_eq_true_iff.mpr ⟨hd, ?_⟩⟩
  exact decide_eq_true ((of_decide_eq_true hbound).trans_le hle)

theorem lines_sublist {p q : Bool} (h : p = true → q = true) (ls : List String) :
    (if p = true then ls else []).Sublist (if q = true then ls else []) := by
  cases p with
  | false => exact List.nil_sublist _
  | true =>
    rw [h rfl]

theorem evidence_sublist (h : Worse m m') : (evidence (signals m)).Sublist (evidence (signals m')) := by
  unfold evidence
  exact ((lines_sublist (isAbove_mono h) _).append (lines_sublist (isAbove_mono h) _)).append
    (lines_sublist (isAbove_mono h) _)

/-! ## a metric that was missing -/

theorem metric?_put (m : SocialMetrics ℚ) (c : Channel) (x : ℚ) :
    metric? (put m c x) = Function.update (metric? m) c (some x) := by
  funext d
  cases c <;> cases d <;> rfl

theorem share?_put_self (m : SocialMetrics ℚ) (c : Channel) (x : ℚ) :
    share? (put m c x) c = some (share c x) := by
  unfold share?
  rw [metric?_put, Function.update_self]
  rfl

theorem share?_put_of_ne {d : Channel} (h : d ≠ c) : share? (put m c x) d = share? m d := by
  unfold share?
  rw [metric?_put, Function.update_of_ne h]

/-- a channel that is added adds its own term to a sum over all channels -/
theorem sum_put {f : Channel → ℚ → ℚ} (hc : metric? m c = none) :
    (Channel.all.map fun d => ((share? (put m c x) d).map (f d)).getD 0).sum =
      (Channel.all.map fun d => ((share? m d).map (f d)).getD 0).sum + f c (share c x) := by
  have hnone : share? m c = none := by
    unfold share?
    rw [hc]
    rfl
  have hself : ((share? (put m c x) c).map (f c)).getD 0 =
      ((share? m c).map (f c)).getD 0 + f c (share c x) := by
    rw [share?_put_self, hnone]
    exact (zero_add _).symm
  have hne : ∀ d, d ≠ c → ((share? (put m c x) d).map (f d)).getD 0 = ((share? m d).map (f d)).getD 0 :=
    fun d hd => by rw [share?_put_of_ne hd]
  unfold Channel.all
  simp only [List.map_cons, List.map_nil, List.sum_cons, List.sum_nil]
  cases c with
  | botFollowers =>
    rw [hself, hne .coordinatedPosting (by decide), hne .inorganicGrowth (by decide)]
    ring
  | coordinatedPosting =>
    rw [hself, hne .botFollowers (by decide), hne .inorganicGrowth (by decide)]
    ring
  | inorganicGrowth =>
    rw [hself, hne .botFollowers (by decide), hne .coordinatedPosting (by decide)]
    ring

/-- the mean moves toward the share of the new metric, by its part of the weight -/
theorem mean_put {d : Channel} (hd : metric? m d ≠ none) (hc : metric? m c = none) :
    mean (put m c x) = mean m + c.weight / (total m + c.weight) * (share c x - mean m) := by
  have hpos := total_pos hd
  have hweight := weight_pos c
  have htotal : total (put m c x) = total m + c.weight := sum_put (f := fun c _ => c.weight) hc
  have hsum : weighed (put m c x) = weighed m + c.weight * share c x := sum_put hc
  rw [mean, htotal, hsum, weighed_eq hd]
  field_simp
  ring

/-! ## what the detector replies -/

theorem signal_eq {b : Bundle ℚ} (hb : b.socialMetrics = some m) (hm : metric? m c ≠ none) :
    signal b = {
      confidence := mean m
      evidence := (evidence (signals m)).map .text
      severity := some (if (0.8 : ℚ) < mean m then .high else .medium)
      metadata := [("manipulation_score", fourPlaces (mean m)),
        ("signals", .map ((signals m).map fun s => (.text s.1.name, .float (Scalar.toFloat s.2))))] } := by
  have hne := signals_ne_nil hm
  have hscore := score_eq_mean m
  have hsignals : b.socialMetrics.elim [] signals = signals m := by rw [hb]; rfl
  unfold signal
  rw [hsignals]
  cases hss : signals m with
  | nil => exact absurd hss hne
  | cons s ss =>
    rw [hss] at hscore
    dsimp only
    rw [hscore]

theorem analyze_eq {σ : Type} {b : Bundle ℚ} (hb : b.socialMetrics = some m) (hm : metric? m c ≠ none)
    (state : σ) : detector.analyze b state = (.signal (signal b), state) := by
  have hunit : isUnit (signal b).confidence = true := by
    rw [signal_eq hb hm]
    exact isUnit_iff.mpr (mean_unit hm)
  exact congrArg (·, state) (if_pos hunit)

theorem applies_of_present {b : Bundle ℚ} (hb : b.socialMetrics = some m) (hm : metric? m c ≠ none) :
    applies b = true := by
  have hsignals : b.socialMetrics.elim [] signals = signals m := by rw [hb]; rfl
  unfold applies
  rw [hsignals]
  simpa using signals_ne_nil hm

theorem rank_le_of_mean_le {p q : ℚ} (h : p ≤ q) :
    (if (0.8 : ℚ) < p then Severity.high else .medium).rank ≤
      (if (0.8 : ℚ) < q then Severity.high else .medium).rank := by
  by_cases hp : (0.8 : ℚ) < p
  · rw [if_pos hp, if_pos (hp.trans_le h)]
  · rw [if_neg hp]
    split
    · decide
    · exact le_rfl

/-- **The confidence of the social detector.** For all metrics of which one is present, in exact fractions: it
is the mean of the shares by the weights of the channels that are present, and lies among them. Metrics that
speak more for manipulation never lower it or the severity, and keep each line of the evidence; a metric that
was missing moves it toward the share of that metric. -/
theorem sentiment_laws {σ : Type} {b : Bundle ℚ} (hb : b.socialMetrics = some m) (hm : metric? m c ≠ none)
    (state : σ) :
    ∃ s : Signal ℚ, (detector : Detector ℚ σ).applies b = .ok true ∧
      detector.analyze b state = (.signal s, state) ∧ s.confidence = mean m ∧
      (∃ d x, share? m d = some x ∧ x ≤ s.confidence) ∧ (∃ d x, share? m d = some x ∧ s.confidence ≤ x) ∧
      (∀ (b' : Bundle ℚ) (m' : SocialMetrics ℚ), b'.socialMetrics = some m' → Worse m m' →
        ∃ s' : Signal ℚ, detector.analyze b' state = (.signal s', state) ∧
          s.confidence ≤ s'.confidence ∧
          (∃ v v', s.severity = some v ∧ s'.severity = some v' ∧ v.rank ≤ v'.rank) ∧
          s.evidence.Sublist s'.evidence) ∧
      ∀ (b' : Bundle ℚ) (d : Channel) (x : ℚ), metric? m d = none → b'.socialMetrics = some (put m d x) →
        ∃ (s' : Signal ℚ) (t : ℚ), detector.analyze b' state = (.signal s', state) ∧
          0 < t ∧ t < 1 ∧ s'.confidence = s.confidence + t * (share d x - s.confidence) := by
  have hconfidence : (signal b).confidence = mean m := by rw [signal_eq hb hm]
  refine ⟨signal b, congrArg Except.ok (applies_of_present hb hm), analyze_eq hb hm state, hconfidence, ?_, ?_,
    ?_, ?_⟩
  · rw [hconfidence]
    exact exists_share_le_mean hm
  · rw [hconfidence]
    exact exists_mean_le_share hm
  · intro b' m' hb' hworse
    have hm' := hworse.present hm
    have hmean := mean_le_of_worse hworse hm
    refine ⟨signal b', analyze_eq hb' hm' state, ?_⟩
    rw [signal_eq hb hm, signal_eq hb' hm']
    exact ⟨hmean, ⟨_, _, rfl, rfl, rank_le_of_mean_le hmean⟩, (evidence_sublist hworse).map _⟩
  · intro b' d x hd hb'
    have hpresent : metric? (put m d x) d ≠ none := by
      rw [metric?_put, Function.update_self]
      exact Option.some_ne_none x
    have htotal := total_pos hm
    have hweight := weight_pos d
    refine ⟨signal b', d.weight / (total m + d.weight), analyze_eq hb' hpresent state,
      div_pos hweight (by linarith), (div_lt_one (by linarith)).mpr (by linarith), ?_⟩
    rw [signal_eq hb' hpresent, hconfidence]
    exact mean_put hm hd

def sampleBundle (m : SocialMetrics ℚ) : Bundle ℚ :=
  ⟨"0x1", "ethereum", none, none, none, none, none, none, some m⟩

/-- two of the metrics, one of them out of range -/
def sampleMetrics : SocialMetrics ℚ := ⟨none, none, some 40, none, some 150⟩

theorem mean_sampleMetrics : mean sampleMetrics = 16 / 65 := by
  show ((0.40 : ℚ) * max 0 (min 1 (40 / 100)) + (0 + ((0.25 : ℚ) * max 0 (min 1 ((100 - 150) / 100)) + 0))) /
    (0.40 + (0 + (0.25 + 0))) = 16 / 65
  norm_num

/-- less organic growth raises the confidence, and so does a metric that was missing, which counts in full -/
theorem sentiment_laws_partial :
    sampleMetrics.botFollowerPercentage = some 40 ∧
    ∃ s s' s'' : Signal ℚ, detector.analyze (sampleBundle sampleMetrics) () = (.signal s, ()) ∧
      s.confidence = 16 / 65 ∧
      detector.analyze (sampleBundle (put sampleMetrics .inorganicGrowth 30)) () = (.signal s', ()) ∧
      16 / 65 ≤ s'.confidence ∧
      detector.analyze (sampleBundle (put sampleMetrics .coordinatedPosting 200)) () = (.signal s'', ()) ∧
      16 / 65 < s''.confidence ∧ s''.confidence < 1 := by
  obtain ⟨s, _, hs, hmean, _, _, hworse, hadded⟩ :=
    sentiment_laws (b := sampleBundle sampleMetrics) (c := .botFollowers) rfl (Option.some_ne_none 40) ()
  rw [mean_sampleMetrics] at hmean
  have hraised : Worse sampleMetrics (put sampleMetrics .inorganicGrowth 30) := by
    intro c
    cases c with
    | botFollowers => exact .some le_rfl
    | coordinatedPosting => exact .none
    | inorganicGrowth => exact .some (show (30 : ℚ) ≤ 150 by norm_num)
  obtain ⟨s', hs', hle, _⟩ := hworse (sampleBundle _) _ rfl hraised
  obtain ⟨s'', t, hs'', h0, h1, hmoved⟩ := hadded (sampleBundle _) .coordinatedPosting 200 rfl rfl
  have hfull : share .coordinatedPosting 200 = 1 := by
    show max (0 : ℚ) (min 1 (200 / 100)) = 1
    norm_num
  rw [hmean] at hle hmoved
  rw [hfull] at hmoved
  exact ⟨rfl, s, s', s'', hs, hmean, hs', hle, hs'', by linarith, by linarith⟩

end ContractRisk.Social
