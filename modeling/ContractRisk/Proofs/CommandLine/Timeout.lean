import ContractRisk.Proofs.CommandLine.Scanning
import ContractRisk.Proofs.Number.Scaled

/-!
# The time that a request gives to the detectors

Settings that were read keep what their declarations ask for (`Settings.Valid`), but a request puts its
values in their place unread. The only one that can do harm is the time for the detectors:

* `overridden_valid_iff`         the settings stay valid exactly if the time that is given is zero, which
  stands for none, or positive: negative times and NaN are let through;
* `Engine.scanBundle_of_time`    how much time there is makes no difference to a report, as long as there is
  some; NaN counts as some, since only a time that is at most zero is up at once;
* `overridden_scan`              so a request makes detectors late exactly if it gives a negative time, and
  then all that apply are late.
-/

namespace ContractRisk

open CommandLine

/-! ## time to answer -/

section
variable {α : Type} [Scalar α] {t t' : α} {b : Bundle α}

/-- an answer is late if the detector applies and there is no time, and only then -/
theorem Response.late_iff {d : Detector α (Hub α)} {a : Option (Answer α)} {h h' : Hub α}
    (hr : Response t b d h a h') : a = some .late ↔ d.applies b = .ok true ∧ t ≤ Scalar.ofInt 0 := by
  cases hr with
  | passed happlies => exact ⟨nofun, fun ⟨h, _⟩ => nomatch happlies.symm.trans h⟩
  | broken happlies => exact ⟨nofun, fun ⟨h, _⟩ => nomatch happlies.symm.trans h⟩
  | late happlies htime => exact ⟨fun _ => ⟨happlies, htime⟩, fun _ => rfl⟩
  | reply _ htime => exact ⟨nofun, fun ⟨_, h⟩ => absurd h htime⟩

theorem Response.of_time {d : Detector α (Hub α)} {a : Option (Answer α)} {h h' : Hub α}
    (hr : Response t b d h a h') (ht : ¬ t ≤ Scalar.ofInt 0) (ht' : ¬ t' ≤ Scalar.ofInt 0) :
    Response t' b d h a h' := by
  cases hr with
  | passed happlies => exact .passed happlies
  | broken happlies => exact .broken happlies
  | late _ htime => exact absurd htime ht
  | reply happlies _ => exact .reply happlies ht'

variable {ds : List (Detector α (Hub α))} {as : List (Option (Answer α))} {h h' : Hub α}

theorem Poll.late_iff (hp : Poll t b ds h as h') :
    ∀ p ∈ ds.zip as, p.2 = some .late ↔ p.1.applies b = .ok true ∧ t ≤ Scalar.ofInt 0 := by
  induction hp with
  | nil _ => exact nofun
  | cons hr _ ih =>
    rw [List.zip_cons_cons, List.forall_mem_cons]
    exact ⟨hr.late_iff, ih⟩

theorem Poll.of_time (hp : Poll t b ds h as h') (ht : ¬ t ≤ Scalar.ofInt 0)
    (ht' : ¬ t' ≤ Scalar.ofInt 0) : Poll t' b ds h as h' := by
  induction hp with
  | nil h => exact .nil h
  | cons hr _ ih => exact .cons (hr.of_time ht ht') ih

/-- a report does not tell how much time there was for the detectors -/
theorem Engine.scanBundle_of_time (e : Engine α) (b : Bundle α) (ht : ¬ e.timeout ≤ Scalar.ofInt 0)
    (ht' : ¬ t' ≤ Scalar.ofInt 0) :
    ({ e with timeout := t' }.scanBundle b).1 = (e.scanBundle b).1 := by
  obtain ⟨as, hpoll, -⟩ := askAll_spec e.timeout b e.detectors (e.hub.started b)
  exact scanWith_same rfl rfl hpoll (hpoll.of_time ht ht') rfl

end

/-! ## settings in order -/

/-- what the declarations of the settings ask for -/
structure Settings.Valid {α : Type} [Scalar α] (x : Settings α) : Prop where
  appEnv : x.appEnv ∈ Settings.appEnvs
  detectorTimeout : Scalar.ofInt 0 < x.detectorTimeout
  eventQueueSize : 1 ≤ x.eventQueueSize

section
variable {α : Type} [Scalar α]

theorem checkPositive_eq_ok {path : List String} {v : Value} {x : α}
    (h : Settings.checkPositive path v = .ok x) : Scalar.ofInt 0 < x := by
  unfold Settings.checkPositive at h
  cases hv : (checkScalar path v : Check α) with
  | error p =>
    rw [hv] at h
    exact nomatch h
  | ok y =>
    rw [hv] at h
    dsimp only at h
    by_cases hy : Scalar.ofInt 0 < y
    · obtain rfl : y = x := Except.ok.inj ((if_pos hy).symm.trans h)
      exact hy
    · exact nomatch (if_neg hy).symm.trans h

theorem checkAmong_eq_ok {path : List String} {v : Value} {names : List String} {s : String}
    (h : Check.among names (fun s => names.find? (· == s)) path v = .ok s) : s ∈ names := by
  cases v with
  | text t =>
    unfold Check.among at h
    dsimp only at h
    cases hfind : names.find? (· == t) with
    | none =>
      rw [hfind] at h
      exact nomatch h
    | some u =>
      rw [hfind] at h
      obtain rfl : u = s := Except.ok.inj h
      exact List.mem_of_find?_eq_some hfind
  | _ => exact nomatch h

end

theorem Settings.valid_of_ofFields {fs : Fields} {x : Settings Float} (h : ofFields fs = .ok x) :
    x.Valid := by
  obtain ⟨henv, htime, -⟩ := checked_of_ofFields h
  refine ⟨?_, ?_, one_le_eventQueueSize h⟩
  · rcases Check.field_eq_ok henv with habsent | ⟨_, _, _, hamong⟩
    · rw [← Except.ok.inj habsent]
      decide
    · exact checkAmong_eq_ok hamong
  · rcases Check.field_eq_ok htime with habsent | ⟨_, _, _, hpositive⟩
    · rw [← Except.ok.inj habsent]
      decide +kernel
    · exact checkPositive_eq_ok hpositive

namespace CommandLine.Session

theorem settings_valid {s : Surroundings Float} {x : Settings Float} (h : settings s = .ok x) :
    x.Valid := by
  obtain ⟨fs, hfs⟩ := exists_fields_of_settings h
  exact Settings.valid_of_ofFields hfs

/-! ## what a request puts in their place -/

/-- the same request, without a time for the detectors -/
def untimed (r : ScanRequest) : ScanRequest := { r with timeout := none }

/-- the time that a request gives to the detectors; zero stands for none -/
def given? (r : ScanRequest) : Option Float := r.timeout.filter (· != 0.0)

/-- the request gives a time that is over before it begins -/
def Overdue (r : ScanRequest) : Prop := ∃ t, r.timeout = some t ∧ t < 0.0

section
variable {α : Type} [Scalar α]

theorem overridden_untimed (r : ScanRequest) (x : Settings α) :
    (overridden (untimed r) x).appEnv = x.appEnv ∧
      (overridden (untimed r) x).detectorTimeout = x.detectorTimeout := by
  unfold overridden untimed
  dsimp only
  split <;> split <;> exact ⟨rfl, rfl⟩

/-- a time is put in its place, and has no bearing on the rest -/
theorem overridden_eq_untimed (r : ScanRequest) (x : Settings α) :
    overridden r x = { overridden (untimed r) x with
      detectorTimeout := ((given? r).map Scalar.ofFloat).getD x.detectorTimeout } := by
  unfold overridden untimed given?
  dsimp only
  cases r.timeout with
  | none => split <;> split <;> rfl
  | some t =>
    dsimp only
    rw [Option.filter_some]
    by_cases ht : (t != 0.0) = true
    · rw [if_pos ht, if_pos ht]
      split <;> split <;> rfl
    · rw [if_neg ht, if_neg ht]
      split <;> split <;> rfl

end

section
variable (r : ScanRequest) (x : Settings Float)

/-- the time for the detectors is that of the settings if none is given, and else the one given -/
theorem overridden_timeout_cases :
    ((∀ t, r.timeout = some t → (t == 0.0) = true) ∧
      (overridden r x).detectorTimeout = x.detectorTimeout) ∨
    ∃ t, r.timeout = some t ∧ (t == 0.0) = false ∧ (overridden r x).detectorTimeout = t := by
  rw [overridden_eq_untimed]
  unfold given?
  cases r.timeout with
  | none => exact .inl ⟨nofun, rfl⟩
  | some t =>
    rw [Option.filter_some]
    cases ht : t == 0.0 with
    | true =>
      refine .inl ⟨fun u hu => Option.some.inj hu ▸ ht, ?_⟩
      rw [bne, ht]
      rfl
    | false =>
      refine .inr ⟨t, rfl, ht, ?_⟩
      rw [bne, ht]
      rfl

variable {r x}

/-- the constraints hold unless a negative time or NaN is given -/
theorem overridden_valid_iff (hx : x.Valid) :
    (overridden r x).Valid ↔ ∀ t, r.timeout = some t → (t == 0.0) = true ∨ 0.0 < t := by
  have henv : (overridden r x).appEnv = x.appEnv := by
    rw [overridden_eq_untimed]
    exact (overridden_untimed r x).1
  have hsize := (overridden_events r x).1
  have hvalid : (overridden r x).Valid ↔ 0.0 < (overridden r x).detectorTimeout :=
    ⟨fun h => h.detectorTimeout, fun h => ⟨henv ▸ hx.appEnv, h, hsize ▸ hx.eventQueueSize⟩⟩
  rw [hvalid]
  rcases overridden_timeout_cases r x with ⟨hzero, heq⟩ | ⟨t, ht, hzero, heq⟩
  · exact ⟨fun _ t ht => .inl (hzero t ht), fun _ => heq ▸ hx.detectorTimeout⟩
  · rw [heq, ht]
    constructor
    · intro hpositive u hu
      exact .inr (Option.some.inj hu ▸ hpositive)
    · intro h
      exact (h t rfl).resolve_left (hzero ▸ Bool.false_ne_true)

theorem overridden_timeout_le_iff (hx : x.Valid) :
    (overridden r x).detectorTimeout ≤ Scalar.ofInt 0 ↔ Overdue r := by
  show (overridden r x).detectorTimeout ≤ 0.0 ↔ ∃ t, r.timeout = some t ∧ t < 0.0
  rcases overridden_timeout_cases r x with ⟨hzero, heq⟩ | ⟨t, ht, hzero, heq⟩
  · rw [heq]
    constructor
    · exact fun h => absurd hx.detectorTimeout (Double.not_lt_of_le h)
    · rintro ⟨t, ht, hnegative⟩
      exact nomatch (hzero t ht).symm.trans (Double.beq_eq_false_of_lt hnegative)
  · rw [heq, ht]
    constructor
    · intro h
      exact ⟨t, rfl, (Double.lt_or_beq_of_le h).resolve_right (hzero ▸ Bool.false_ne_true)⟩
    · rintro ⟨u, hu, hnegative⟩
      obtain rfl := Option.some.inj hu
      exact Double.le_of_lt hnegative

end

/-! ## the engine for a request -/

section
variable {r : ScanRequest} {x : Settings Float} {detectors : Option (List (Detector Float (Hub Float)))}
  {files : FileTree} {supply : Supply} {now : Float} {registry registry' : Registry Float}
  {m : Machine} {e : Engine Float}

/-- the time for the detectors goes into an engine as it is, and has no bearing on the rest -/
theorem ofSettings_timeout
    (h : Engine.ofSettings x detectors files supply now registry m = (.ok e, registry')) :
    e.timeout = x.detectorTimeout ∧
      ∀ t, Engine.ofSettings { x with detectorTimeout := t } detectors files supply now registry m =
        (.ok { e with timeout := t }, registry') := by
  have hcustom (t : Float) : Engine.addCustom { x with detectorTimeout := t } files registry m =
      Engine.addCustom x files registry m := rfl
  unfold Engine.ofSettings at h ⊢
  cases hadded : Engine.addCustom x files registry m with
  | mk outcome r =>
    rw [hadded] at h
    cases outcome with
    | error f => exact nomatch h
    | ok notes =>
      obtain ⟨hmade, rfl⟩ := Prod.mk.inj h
      obtain rfl := Except.ok.inj hmade
      refine ⟨rfl, fun t => ?_⟩
      rw [hcustom, hadded]
      rfl

/-- an engine made with a time is the one made without it, but for the time -/
theorem ofSettings_untimed
    (h : Engine.ofSettings (overridden r x) detectors files supply now registry m = (.ok e, registry')) :
    Engine.ofSettings (overridden (untimed r) x) detectors files supply now registry m =
      (.ok { e with timeout := x.detectorTimeout }, registry') := by
  have huntimed : overridden (untimed r) x =
      { overridden r x with detectorTimeout := x.detectorTimeout } := by
    rw [overridden_eq_untimed r, ← (overridden_untimed r x).2]
  rw [huntimed]
  exact (ofSettings_timeout h).2 x.detectorTimeout

end

/-- a detector that is late is listed as one that gave no signal -/
theorem mem_failures_of_late {ds : List (Detector Float (Hub Float))}
    {as : List (Option (Answer Float))} {d : Detector Float (Hub Float)}
    (h : (d, some .late) ∈ ds.zip as) : d.id ∈ failures ds as :=
  List.mem_filterMap.mpr ⟨_, h, rfl⟩

/-- **What a request does to the settings.** They stay valid exactly if the time that it gives is zero or
positive. Detectors are made late by a negative time alone, which makes late all that apply; with any other
time, NaN among them, a scan comes to what it comes to without one. -/
theorem overridden_scan {x : Settings Float} (hx : x.Valid) (r : ScanRequest) :
    ((overridden r x).Valid ↔ ∀ t, r.timeout = some t → (t == 0.0) = true ∨ 0.0 < t) ∧
    ∀ detectors files supply now registry m e registry',
      Engine.ofSettings (overridden r x) detectors files supply now registry m = (.ok e, registry') →
      (∃ e', Engine.ofSettings (overridden (untimed r) x) detectors files supply now registry m =
          (.ok e', registry') ∧
        (¬ Overdue r → ∀ b, (e.scanBundle b).1 = (e'.scanBundle b).1)) ∧
      ∀ b report, (e.scanBundle b).1 = .ok report →
        ∃ as polled, Poll e.timeout b e.detectors (e.hub.started b) as polled ∧
          report.failedDetectors = failures e.detectors as ∧
          (∀ p ∈ e.detectors.zip as,
            p.2 = some .late ↔ p.1.applies b = .ok true ∧ Overdue r) ∧
          (Overdue r → ∀ d ∈ e.detectors, d.applies b = .ok true → d.id ∈ report.failedDetectors) := by
  refine ⟨overridden_valid_iff hx, fun detectors files supply now registry m e registry' hmade => ?_⟩
  have hup : e.timeout ≤ Scalar.ofInt 0 ↔ Overdue r :=
    (ofSettings_timeout hmade).1 ▸ overridden_timeout_le_iff hx
  refine ⟨⟨_, ofSettings_untimed hmade, fun htime b => ?_⟩, fun b report hreport => ?_⟩
  · have hbase : ¬ x.detectorTimeout ≤ Scalar.ofInt 0 :=
      fun h => Double.not_lt_of_le h hx.detectorTimeout
    exact (e.scanBundle_of_time b (mt hup.mp htime) hbase).symm
  · obtain ⟨as, polled, fs, extra, hcompletes⟩ := scanBundle_completes hreport
    have hlate := hcompletes.poll.late_iff
    simp only [hup] at hlate
    refine ⟨as, polled, hcompletes.poll, hcompletes.failed, hlate, fun hoverdue d hd happlies => ?_⟩
    have hfirst : d ∈ (e.detectors.zip as).map Prod.fst := by
      rw [List.map_fst_zip hcompletes.poll.length_eq.ge]
      exact hd
    obtain ⟨⟨d, a⟩, hmem, rfl⟩ := List.mem_map.mp hfirst
    obtain rfl : a = some .late := (hlate _ hmem).mpr ⟨happlies, hoverdue⟩
    exact hcompletes.failed ▸ mem_failures_of_late hmem

end CommandLine.Session

/-! ### a negative time, and none to speak of -/

namespace Sample

/-- a bundle that one detector applies to -/
def followed : String :=
  "\x7b\"address\": \"0xabc\", \"network\": \"eth\", " ++
    "\"socialMetrics\": \x7b\"botFollowerPercentage\": 10\x7d\x7d"

/-- the request for a table, with a time for the detectors -/
def timed (t : Float) : ScanRequest := { request none 0 with timeout := some t }

theorem valid_settings : (settings "" "").Valid :=
  Session.settings_valid (s := session [] fun _ _ => .failure "") rfl

end Sample

namespace CommandLine.Session

open Sample

/-- NaN is no time that the settings may hold, and yet as good as none -/
theorem overridden_scan_nan :
    let nan : Float := 0.0 / 0.0
    let x := Sample.settings "" ""
    Invocation.read ["scan", "-", "--timeout", "nan"] =
        .ok ⟨false, false, some (.scan (timed nan))⟩ ∧
      x.Valid ∧ ¬ (overridden (timed nan) x).Valid ∧
      ∃ e e' : Engine Float, e.timeout.isNaN = true ∧ e'.timeout = 5.0 ∧
        ∀ b, (e.scanBundle b).1 = (e'.scanBundle b).1 := by
  intro nan x
  obtain ⟨hvalid, hscan⟩ := overridden_scan valid_settings (timed nan)
  have hzero : (nan == 0.0) = false := by decide +kernel
  have hnegative : ¬ Overdue (timed nan) := by
    rintro ⟨t, ht, hlt⟩
    obtain rfl : nan = t := Option.some.inj ht
    exact absurd hlt (by decide +kernel)
  have htime : overridden (timed nan) x = { x with detectorTimeout := nan } := by
    have hgiven : given? (timed nan) = some nan := by
      refine Option.filter_eq_some_iff.mpr ⟨rfl, ?_⟩
      rw [bne, hzero]
      rfl
    rw [overridden_eq_untimed, hgiven]
    rfl
  have hmade : Engine.ofSettings x none (fun _ => .error .missing) ⟨Text.natText, 0⟩ 0
      ⟨Catalog.patterns⟩ = (.ok builtIn, ⟨Catalog.patterns⟩) := rfl
  have hnan := (ofSettings_timeout hmade).2 nan
  rw [← htime] at hnan
  obtain ⟨⟨e', hmade', hsame⟩, -⟩ := hscan _ _ _ _ _ _ _ _ hnan
  refine ⟨rfl, valid_settings, ?_, _, e', ?_, ?_, hsame hnegative⟩
  · rw [hvalid]
    intro h
    rcases h nan rfl with heq | hpositive
    · exact nomatch hzero.symm.trans heq
    · exact absurd hpositive (by decide +kernel)
  · show nan.isNaN = true
    decide +kernel
  · exact (ofSettings_timeout hmade').1

set_option maxRecDepth 10000 in
/-- a detector that answers at once, which fails because of the time that is given -/
theorem overridden_negative :
    let s := { session [] fun _ _ => .failure "" with input := followed }
    let x := Sample.settings "" ""
    let e := { builtIn with timeout := -1.0 }
    Session.settings s = .ok x ∧
      Invocation.read ["scan", "-", "--timeout", "-1"] =
        .ok ⟨false, false, some (.scan (timed (-1.0)))⟩ ∧
      ¬ (overridden (timed (-1.0)) x).Valid ∧
      Session.engine s (overridden (timed (-1.0)) x) = .ok (.ok e) ∧
      (e.scan (.text followed)).1.toOption.map (·.failedDetectors) = some ["social_sentiment"] ∧
      (builtIn.scan (.text followed)).1.toOption.map (·.failedDetectors) = some [] := by
  refine ⟨rfl, rfl, fun h => ?_, rfl, by decide +kernel, by decide +kernel⟩
  exact absurd h.detectorTimeout (by decide +kernel)

end CommandLine.Session

end ContractRisk
