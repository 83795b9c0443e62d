import ContractRisk.Proofs.Registry.Calls
import ContractRisk.Proofs.Scan.Findings

/-!
# Scans in flight

Scans of one engine run side by side. Each is a `Flight` that keeps the patterns it still has to evaluate,
from the snapshot at its launch, and what came of those and of the detectors that it has done with. `Step`
is whatever may happen next, in any order: calls that change the registry, the launch of a scan, one more
pattern or one more detector of some scan, its end. A detector may make calls while it is asked.

* `Flight.Follows`          a flight goes by the patterns of its snapshot, whatever happens around it;
* `Run.registry_eq`         the registry is the one that the calls alone have made;
* `Run.snapshot_isolation`  both together;
* `scanBundle_run`          a scan with nothing in between takes the same steps.
-/

namespace ContractRisk

variable {α : Type} [Scalar α]

/-! ## the registry of an engine -/

/-- a call to an engine; one that is refused leaves the engine as it is -/
def Engine.call (e : Engine α) : Registry.Call α → Engine α
  | .register p _ =>
    match e.addPattern p with
    | .ok e' => e'
    | .error _ => e
  | .update id a =>
    match e.updatePattern id a with
    | .ok (_, e') => e'
    | .error _ => e

omit [Scalar α] in
theorem Engine.call_registry (e : Engine α) (c : Registry.Call α) :
    (e.call c).hub.registry = (e.hub.registry.call c).2 := by
  cases c with
  | register p hp =>
    simp only [Engine.call, Engine.addPattern, Registry.call]
    cases e.hub.registry.register p <;> rfl
  | update id a =>
    simp only [Engine.call, Engine.updatePattern, Registry.call]
    rcases e.hub.registry.update id a with (_ | _ | _ | _ | _) | _ <;> rfl

theorem gather_registry (b : Bundle α) (scanId : String) (ls : List (Lead α)) (h : Hub α) :
    (gather b scanId ls h).2.registry = h.registry := by
  induction ls generalizing h with
  | nil => rfl
  | cons l ls ih =>
    simp only [gather, Hub.takeId]
    cases l.finding h.supply.next b with
    | error problems => rfl
    | ok f => exact ih _

theorem escalate_registry (b : Bundle α) (scanId : String) (p : RiskProfile α)
    (fs : List (Finding α)) (h : Hub α) : (escalate b scanId p fs h).2.registry = h.registry := by
  unfold escalate
  cases p.needsEscalation <;> rfl

/-- the end of a scan leaves the registry alone -/
theorem finish_registry (timeout : α) (b : Bundle α) (scanId : String) (s : Screening α)
    (asked : List (Asked α)) (h : Hub α) :
    (finish timeout b scanId s asked h).2.registry = h.registry := by
  have hgather := gather_registry b scanId (leads s asked)
    (h.write (detectorNotes (.ofScan scanId b.address) timeout asked))
  unfold finish
  dsimp only
  generalize gather b scanId (leads s asked) _ = x at hgather
  obtain ⟨outcome, k⟩ := x
  cases outcome with
  | error problems => exact hgather
  | ok fs => exact (escalate_registry b scanId (.ofFindings fs) fs k).trans hgather

/-! ## flights -/

/-- a scan between its launch and its end, and after it -/
structure Flight (α : Type) where
  bundle : Bundle α
  scanId : String
  /-- the patterns of the snapshot that are not evaluated yet -/
  waiting : List (Pattern α)
  screened : Screening α × View α
  /-- the detectors, with what came of those that were asked -/
  polled : List (Detector α (Hub α) × Option (Option (Answer α)))
  outcome : Option (Except (List Problem) (Report α))

namespace Flight

def context (f : Flight α) : Context := .ofScan f.scanId f.bundle.address

def launch (e : Engine α) (b : Bundle α) : Flight α where
  bundle := b
  scanId := e.hub.supply.next
  waiting := e.hub.registry.patterns
  screened := (.empty, View.of b)
  polled := e.detectors.map fun d => (d, none)
  outcome := none

/-- evaluates the next pattern, if there is one -/
def screenNext (f : Flight α) : Flight α :=
  { f with waiting := f.waiting.tail, screened := (f.waiting.take 1).foldl screenOne f.screened }

/-- what is noted of a pattern if it is skipped -/
def skipNotes (f : Flight α) : Diary :=
  (f.screenNext.screened.1.skipped.drop f.screened.1.skipped.length).map (skipNote f.context)

/-- the answer of a detector that was asked and not passed over -/
def answer? (x : Detector α (Hub α) × Option (Option (Answer α))) : Option (Asked α) :=
  x.2.join.map fun a => (x.1, a)

/-- the answers so far, in the order of the detectors -/
def asked (f : Flight α) : List (Asked α) := f.polled.filterMap answer?

def conclude (f : Flight α) (timeout : α) (h : Hub α) :
    Except (List Problem) (Report α) × Hub α :=
  finish timeout f.bundle f.scanId f.screened.1 f.asked h

end Flight

/-- an engine with the scans that were launched on it -/
structure System (α : Type) where
  engine : Engine α
  flights : List (Flight α)

namespace System

/-- the patterns that are registered now -/
def registry (s : System α) : Registry α := s.engine.hub.registry

def onHub (s : System α) (h : Hub α) : System α := { s with engine := { s.engine with hub := h } }

def put (s : System α) (i : Nat) (f : Flight α) (h : Hub α) : System α :=
  { s.onHub h with flights := s.flights.set i f }

def launch (s : System α) (b : Bundle α) : System α :=
  let f := Flight.launch s.engine b
  { s.onHub (s.engine.hub.takeId.2.write [startNote f.context b]) with flights := s.flights ++ [f] }

/-- what may happen next, and the calls to the registry that are made by it -/
inductive Step : System α → List (Registry.Call α) → System α → Prop
  | call {s : System α} (c : Registry.Call α) : Step s [c] { s with engine := s.engine.call c }
  /-- reading events, subscribing, time passing -/
  | other {s : System α} {h : Hub α} : h.registry = s.registry → Step s [] (s.onHub h)
  | launch {s : System α} (b : Bundle α) : Step s [] (s.launch b)
  | screen {s : System α} {i : Nat} {f : Flight α} : s.flights[i]? = some f →
      Step s [] (s.put i f.screenNext (s.engine.hub.write f.skipNotes))
  | ask {s : System α} {i k : Nat} {f : Flight α} {d : Detector α (Hub α)}
      {cs : List (Registry.Call α)} : s.flights[i]? = some f → f.polled[k]? = some (d, none) →
      (ask s.engine.timeout f.bundle d s.engine.hub).2.registry = (s.registry.run cs).2 →
      Step s cs (s.put i
        { f with
          polled := f.polled.set k (d, some (ask s.engine.timeout f.bundle d s.engine.hub).1) }
        (ask s.engine.timeout f.bundle d s.engine.hub).2)
  | finish {s : System α} {i : Nat} {f : Flight α} : s.flights[i]? = some f → f.waiting = [] →
      (∀ x ∈ f.polled, x.2.isSome = true) → f.outcome = none →
      Step s [] (s.put i { f with outcome := some (f.conclude s.engine.timeout s.engine.hub).1 }
        (f.conclude s.engine.timeout s.engine.hub).2)

/-- any number of steps, with all calls in order -/
inductive Run (s : System α) : List (Registry.Call α) → System α → Prop
  | refl : Run s [] s
  | step {s' s'' : System α} {cs cs' : List (Registry.Call α)} :
      Run s cs s' → Step s' cs' s'' → Run s (cs ++ cs') s''

theorem Run.trans {s s' s'' : System α} {cs cs' : List (Registry.Call α)} (h : Run s cs s')
    (h' : Run s' cs' s'') : Run s (cs ++ cs') s'' := by
  induction h' with
  | refl => exact (List.append_nil cs).symm ▸ h
  | step _ hstep ih => exact List.append_assoc .. ▸ ih.step hstep

/-! ## the registry -/

theorem Step.registry_eq {s s' : System α} {cs : List (Registry.Call α)} (h : Step s cs s') :
    s'.registry = (s.registry.run cs).2 := by
  cases h with
  | call c => exact s.engine.call_registry c
  | other hsame => exact hsame
  | launch _ => rfl
  | screen _ => rfl
  | ask _ _ hcalls => exact hcalls
  | finish _ _ _ _ => exact finish_registry ..

/-- no call is lost and none is undone -/
theorem Run.registry_eq {s s' : System α} {cs : List (Registry.Call α)} (h : Run s cs s') :
    s'.registry = (s.registry.run cs).2 := by
  induction h with
  | refl => rfl
  | step _ hstep ih => rw [hstep.registry_eq, ih, Registry.run_append]

/-- what holds of all registries that calls lead to holds in any interleaving -/
theorem Run.reachable {s s' : System α} {cs : List (Registry.Call α)} (h : Run s cs s')
    (hs : s.registry.Reachable) : s'.registry.Reachable := by
  rw [h.registry_eq]
  exact hs.run cs

end System

/-! ## flights and their snapshots -/

/-- a flight over `b` evaluates the patterns `ps`, and if it has ended, its outcome is that of a scan that
evaluated them all -/
structure Flight.Follows (b : Bundle α) (ps : List (Pattern α)) (f : Flight α) : Prop where
  bundle : f.bundle = b
  screened : (f.waiting.foldl screenOne f.screened).1 = screen ps b
  outcome : ∀ o, f.outcome = some o → ∃ timeout scanId asked h,
    o = (finish timeout b scanId (screen ps b) asked h).1

theorem Flight.follows_launch (e : Engine α) (b : Bundle α) :
    (Flight.launch e b).Follows b e.hub.registry.patterns where
  bundle := rfl
  screened := rfl
  outcome _ h := nomatch h

theorem Flight.Follows.screenNext {b : Bundle α} {ps : List (Pattern α)} {f : Flight α}
    (hf : f.Follows b ps) : f.screenNext.Follows b ps where
  bundle := hf.bundle
  screened := by
    rw [← hf.screened]
    show (f.waiting.tail.foldl screenOne ((f.waiting.take 1).foldl screenOne f.screened)).1 = _
    rw [← List.foldl_append, ← List.drop_one, List.take_append_drop]
  outcome := hf.outcome

/-- a flight with nothing left to evaluate ends like a scan of its snapshot -/
theorem Flight.Follows.conclude_eq {b : Bundle α} {ps : List (Pattern α)} {f : Flight α}
    (hf : f.Follows b ps) (hwaiting : f.waiting = []) (timeout : α) (h : Hub α) :
    (f.conclude timeout h).1 = (finish timeout b f.scanId (screen ps b) f.asked h).1 := by
  have hscreened := hf.screened
  rw [hwaiting] at hscreened
  rw [← hscreened, ← hf.bundle]
  rfl

/-- every flight follows its snapshot -/
theorem System.Step.follows {s s' : System α} {cs : List (Registry.Call α)} (h : Step s cs s')
    {i : Nat} {b : Bundle α} {ps : List (Pattern α)} {f : Flight α} (hi : s.flights[i]? = some f)
    (hf : f.Follows b ps) : ∃ f', s'.flights[i]? = some f' ∧ f'.Follows b ps := by
  -- a step of the flight `j` changes no other flight
  have hput {j : Nat} {g g' : Flight α} {k : Hub α} (hj : s.flights[j]? = some g)
      (hg : g.Follows b ps → g'.Follows b ps) :
      ∃ f', (s.put j g' k).flights[i]? = some f' ∧ f'.Follows b ps := by
    by_cases hij : j = i
    · subst hij
      obtain rfl : g = f := Option.some.inj (hj.symm.trans hi)
      have hlt : j < s.flights.length := (List.getElem?_eq_some_iff.mp hj).1
      exact ⟨g', List.getElem?_set_self hlt, hg hf⟩
    · exact ⟨f, (List.getElem?_set_ne hij).trans hi, hf⟩
  cases h with
  | call _ => exact ⟨f, hi, hf⟩
  | other _ => exact ⟨f, hi, hf⟩
  | launch _ => exact ⟨f, (List.getElem?_append_left (List.getElem?_eq_some_iff.mp hi).1).trans hi, hf⟩
  | screen hj => exact hput hj Flight.Follows.screenNext
  | ask hj _ _ => exact hput hj fun hg => { hg with }
  | finish hj hwaiting _ _ =>
    refine hput hj fun hg => { hg with outcome := fun o ho => ?_ }
    exact ⟨_, _, _, _, (Option.some.inj ho).symm.trans (hg.conclude_eq hwaiting _ _)⟩

theorem System.Run.follows {s s' : System α} {cs : List (Registry.Call α)} (h : Run s cs s')
    {i : Nat} {b : Bundle α} {ps : List (Pattern α)} {f : Flight α} (hi : s.flights[i]? = some f)
    (hf : f.Follows b ps) : ∃ f', s'.flights[i]? = some f' ∧ f'.Follows b ps := by
  induction h with
  | refl => exact ⟨f, hi, hf⟩
  | step _ hstep ih =>
    obtain ⟨f', hi', hf'⟩ := ih
    exact hstep.follows hi' hf'

/-- the rule findings and the skipped patterns of a report are those of the patterns `ps` -/
structure Report.Shows (b : Bundle α) (ps : List (Pattern α)) (r : Report α) : Prop where
  skipped : r.skippedPatterns = (ps.filter (Pattern.breaks b)).map (·.id)
  rules : ∃ rules, List.Forall₂ (fun m f => ∃ id, Finding.ofMatch id m b = .ok f)
      (ps.filterMap (Pattern.match? b)) rules ∧
    (r.findings.filter fun f => f.source = .rule).Perm rules

theorem source_of_ofMatch {b : Bundle α} {ms : List (PatternMatch α)} {fs : List (Finding α)}
    (h : List.Forall₂ (fun m f => ∃ id, Finding.ofMatch id m b = .ok f) ms fs) :
    ∀ f ∈ fs, f.source = .rule := by
  intro f hf
  obtain ⟨m, _, id, hid⟩ := forall₂_exists_left h hf
  exact (Finding.ofMatch_eq_ok_iff.mp hid).source

theorem source_of_signalLeads {b : Bundle α} {asked : List (Asked α)} {fs : List (Finding α)}
    (h : List.Forall₂ (Lead.Gives b) (signalLeads asked) fs) : ∀ f ∈ fs, f.source = .detector := by
  intro f hf
  obtain ⟨l, hl, id, hid⟩ := forall₂_exists_left h hf
  obtain ⟨x, _, hx⟩ := List.mem_filterMap.mp hl
  obtain ⟨signal, _, rfl⟩ := Option.map_eq_some_iff.mp hx
  exact (Finding.ofSignal_eq_ok_iff.mp hid).source

theorem IsSummary.source {b : Bundle α} {p : RiskProfile α} {fs : List (Finding α)}
    (h : IsSummary b p fs) : ∀ f ∈ fs, f.source = .escalation := by
  intro f hf
  rcases h with ⟨_, id, rfl⟩ | ⟨_, rfl⟩
  · rw [List.mem_singleton.mp hf]
    rfl
  · exact nomatch hf

theorem Concludes.shows {b : Bundle α} {scanId : String} {ps : List (Pattern α)}
    {asked : List (Asked α)} {fs extra : List (Finding α)} {r : Report α}
    (hc : Concludes b scanId (screen ps b) asked fs extra r) : r.Shows b ps where
  skipped := hc.skipped.trans (skippedIds_screen ps b)
  rules := by
    have hmade := hc.made
    unfold leads at hmade
    rw [found_screen] at hmade
    obtain ⟨rules, signals, rfl, hrules, hsignals⟩ := forall₂_append_left hmade
    rw [List.forall₂_map_left_iff] at hrules
    refine ⟨rules, hrules, ?_⟩
    have hother : ∀ f ∈ signals ++ extra, f.source ≠ .rule := by
      intro f hf
      rcases List.mem_append.mp hf with hf | hf
      · rw [source_of_signalLeads hsignals f hf]
        exact nofun
      · rw [hc.summary.source f hf]
        exact nofun
    have hkept : (rules ++ signals ++ extra).filter (fun f => f.source = .rule) = rules := by
      rw [List.append_assoc, List.filter_append,
        List.filter_eq_self.mpr (by simpa using source_of_ofMatch hrules),
        List.filter_eq_nil_iff.mpr (by simpa using hother), List.append_nil]
    rw [hc.findings]
    exact ((Finding.rank_perm _).filter _).trans (.of_eq hkept)

theorem Flight.Follows.shows {b : Bundle α} {ps : List (Pattern α)} {f : Flight α} {r : Report α}
    (hf : f.Follows b ps) (hr : f.outcome = some (.ok r)) : r.Shows b ps := by
  obtain ⟨timeout, scanId, asked, h, ho⟩ := hf.outcome _ hr
  obtain ⟨fs, ⟨r', extra, hok, hc, _⟩ | ⟨problems, herror, _⟩⟩ :=
    finish_spec timeout b scanId (screen ps b) asked h
  · obtain rfl : r' = r := Except.ok.inj (hok.symm.trans ho.symm)
    exact hc.shows
  · exact nomatch ho.trans herror

/-- **Snapshot isolation.** A scan is launched after the calls `before`, and the calls `during` are made
since then, by other scans, by detectors of this one or from outside. -/
theorem System.Run.snapshot_isolation {s₀ s s' : System α} {before during : List (Registry.Call α)}
    (b : Bundle α) (hbefore : Run s₀ before s) (hduring : Run (s.launch b) during s') :
    let snapshot := (s₀.registry.run before).2
    let made := s₀.registry.run (before ++ during)
    s.registry = snapshot ∧ s'.registry = made.2 ∧
    s₀.registry.Continues made.1 s'.registry ∧
    ∃ f, s'.flights[s.flights.length]? = some f ∧
      ∀ r, f.outcome = some (.ok r) → r.Shows b snapshot.patterns := by
  intro snapshot made
  have hsnapshot : s.registry = snapshot := hbefore.registry_eq
  have hafter : s'.registry = made.2 := by
    rw [hduring.registry_eq, show (s.launch b).registry = s.registry from rfl, hsnapshot]
    exact (congrArg Prod.snd (Registry.run_append s₀.registry before during)).symm
  have hlaunched : (s.launch b).flights[s.flights.length]? = some (Flight.launch s.engine b) :=
    List.getElem?_concat_length
  obtain ⟨f, hi, hf⟩ := hduring.follows hlaunched (Flight.follows_launch s.engine b)
  refine ⟨hsnapshot, hafter, hafter ▸ Registry.run_continues .., f, hi, fun r hr => ?_⟩
  exact hsnapshot ▸ hf.shows hr

/-- the call of a detector in the middle of a scan -/
def lateCall : Registry.Call Float :=
  .register (Sample.pattern "LATE" .high fun _ => .ok (.holds true))
    ⟨_, Sample.define_pattern (by decide +kernel) .high _⟩

/-- a detector that registers a pattern and fails -/
def meddler : Detector Float (Hub Float) where
  __ := Sample.detector "meddler" 0.5 1.0 (.failed (.noText .tooDeep))
  analyze _ h := (.failed (.noText .tooDeep), { h with registry := (h.registry.call lateCall).2 })

/-- a pattern that matches and one that breaks -/
def meddledEngine : Engine Float :=
  Sample.engine
    (Sample.patterns [("HIT", .high, fun _ => .ok (.holds true)),
      ("BROKEN", .low, fun _ => .error (.noText .tooDeep))])
    [meddler]

/-- between the two patterns of a scan another one is launched, the detector registers a pattern, and the
first pattern is updated -/
theorem System.snapshot_isolation_meddled :
    ∃ (s' : System Float) (f : Flight Float) (r : Report Float),
      s'.registry.ids = ["HIT", "BROKEN", "LATE"] ∧
      (s'.registry.get? "HIT").map (·.severity) = some .low ∧
      s'.flights.map (·.outcome.isSome) = [true, false] ∧
      s'.flights[0]? = some f ∧ f.outcome = some (.ok r) ∧
      r.Shows Sample.bundle meddledEngine.hub.registry.patterns := by
  let start : System Float := ⟨meddledEngine, []⟩
  let change : Registry.Call Float := .update "HIT" ⟨[("severity", .text "low")], none⟩
  have hmeddles (s : System Float) (htime : s.engine.timeout = meddledEngine.timeout) :
      (ask s.engine.timeout Sample.bundle meddler s.engine.hub).2.registry =
        (s.registry.run [lateCall]).2 := by
    have hr : Response s.engine.timeout Sample.bundle meddler s.engine.hub _ _ :=
      .reply rfl (htime ▸ by decide +kernel)
    rw [hr.eq_ask]
    rfl
  obtain ⟨s', hduring, hflights, hok⟩ :
      ∃ s', Run (start.launch Sample.bundle) [lateCall, change] s' ∧
        s'.flights.map (·.outcome.isSome) = [true, false] ∧
        (s'.flights[0]?.bind (·.outcome)).any Except.isOk = true := by
    have hanother := (Run.refl (s := start.launch Sample.bundle)).step (.launch Sample.bundle)
    have hfirst := hanother.step (.screen (i := 0) rfl)
    have hasked := hfirst.step (.ask (i := 0) (k := 0) rfl rfl (hmeddles _ rfl))
    have hchanged := hasked.step (.call change)
    have hsecond := hchanged.step (.screen (i := 0) rfl)
    have hended := hsecond.step (.finish (i := 0) rfl rfl (by decide +kernel) rfl)
    exact ⟨_, hended, by decide +kernel, by decide +kernel⟩
  obtain ⟨_, _, hc, f, hf, hshows⟩ := Run.snapshot_isolation Sample.bundle .refl hduring
  rw [show s'.flights[0]? = some f from hf, Option.bind_some] at hok
  have hids : s'.registry.ids = ["HIT", "BROKEN", "LATE"] := by
    rw [hc.ids]
    decide +kernel
  have hget : (s'.registry.get? "HIT").map (·.severity) = some .low := by
    rw [hc.get?]
    decide +kernel
  cases ho : f.outcome with
  | none =>
    rw [ho] at hok
    exact nomatch hok
  | some o =>
    rw [ho] at hok
    obtain ⟨r, rfl⟩ := exists_eq_ok (x := o) hok
    exact ⟨s', f, r, hids, hget, hflights, hf, ho, hshows r ho⟩

/-! ## a scan with nothing in between -/

omit [Scalar α] in
theorem Hub.write_write (h : Hub α) (notes notes' : Diary) :
    (h.write notes).write notes' = h.write (notes ++ notes') := by
  unfold Hub.write
  rw [List.append_assoc]

namespace System

theorem Run.single {s s' : System α} {cs : List (Registry.Call α)} (h : Step s cs s') :
    Run s cs s' := .step .refl h

/-- the system of an engine whose last flight is `f` -/
def withLast (e : Engine α) (fs : List (Flight α)) (f : Flight α) (h : Hub α) : System α :=
  ⟨{ e with hub := h }, fs ++ [f]⟩

variable (e : Engine α) (fs : List (Flight α))

omit [Scalar α] in
theorem getElem?_withLast (f : Flight α) (h : Hub α) :
    (withLast e fs f h).flights[fs.length]? = some f := List.getElem?_concat_length

omit [Scalar α] in
theorem put_withLast (f g : Flight α) (h k : Hub α) :
    (withLast e fs f h).put fs.length g k = withLast e fs g k := by
  simp [put, onHub, withLast]

/-- the last flight evaluates all that is waiting -/
theorem run_screen (f : Flight α) (h : Hub α) (hview : f.screened.2.Faithful f.bundle) :
    Run (withLast e fs f h) [] (withLast e fs
      { f with waiting := [], screened := f.waiting.foldl screenOne f.screened }
      (h.write ((f.waiting.filterMap (Pattern.fault? f.bundle)).map (skipNote f.context)))) := by
  generalize hwaiting : f.waiting = ps
  induction ps generalizing f h with
  | nil =>
    have hf : { f with waiting := [], screened := f.screened } = f := by rw [← hwaiting]
    have hh : h.write [] = h := by simp [Hub.write]
    show Run _ [] (withLast e fs { f with waiting := [], screened := f.screened } (h.write []))
    rw [hf, hh]
    exact .refl
  | cons p ps ih =>
    obtain ⟨_, hskipped, hfaithful⟩ := screenOne_spec hview p
    let next : Flight α := { f with waiting := ps, screened := screenOne f.screened p }
    have hnext : f.screenNext = next := by
      unfold Flight.screenNext
      rw [hwaiting]
      rfl
    have hnotes : f.skipNotes = (p.fault? f.bundle).toList.map (skipNote f.context) := by
      unfold Flight.skipNotes
      rw [hnext, hskipped, List.drop_left]
    have hstep := Step.screen (getElem?_withLast e fs f h)
    rw [put_withLast, hnext] at hstep
    have hboth := (Run.single hstep).trans (ih next _ hfaithful rfl)
    rw [hnotes] at hboth
    rw [filterMap_cons_toList, List.map_append, ← Hub.write_write]
    exact hboth

/-- asking a detector that changes the registry by calls makes calls at most -/
theorem ask_registry (timeout : α) {b : Bundle α} {d : Detector α (Hub α)}
    (hd : ∀ k : Hub α, ∃ cs, (d.analyze b k).2.registry = (k.registry.run cs).2) (h : Hub α) :
    ∃ cs, (ask timeout b d h).2.registry = (h.registry.run cs).2 := by
  generalize hasked : ask timeout b d h = x
  have hr := response_ask timeout b d h
  rw [hasked] at hr
  obtain ⟨answer, k⟩ := x
  cases hr with
  | passed _ => exact ⟨[], rfl⟩
  | broken _ => exact ⟨[], rfl⟩
  | late _ _ => exact ⟨[], rfl⟩
  | reply _ _ => exact hd h

/-- the last flight asks the detectors that are left, one after the other -/
theorem run_askAll (ds : List (Detector α (Hub α))) (f : Flight α) (h : Hub α)
    (hds : ∀ d ∈ ds, ∀ k, ∃ cs, (d.analyze f.bundle k).2.registry = (k.registry.run cs).2)
    (done : List (Detector α (Hub α) × Option (Option (Answer α))))
    (hdone : ∀ x ∈ done, x.2.isSome = true) (hpolled : f.polled = done ++ ds.map fun d => (d, none)) :
    ∃ cs polled, (∀ x ∈ polled, x.2.isSome = true) ∧
      polled.filterMap Flight.answer? =
        done.filterMap Flight.answer? ++ (askAll e.timeout f.bundle ds h).1 ∧
      Run (withLast e fs f h) cs
        (withLast e fs { f with polled } (askAll e.timeout f.bundle ds h).2) := by
  induction ds generalizing f h done with
  | nil =>
    have hf : f.polled = done := hpolled.trans (List.append_nil done)
    subst hf
    exact ⟨[], f.polled, hdone, (List.append_nil _).symm, .refl⟩
  | cons d ds ih =>
    let answer := (ask e.timeout f.bundle d h).1
    let k := (ask e.timeout f.bundle d h).2
    have hnext : f.polled[done.length]? = some (d, none) := by rw [hpolled]; simp
    obtain ⟨cs, hcs⟩ := ask_registry e.timeout (hds d List.mem_cons_self) h
    have hstep := Step.ask (getElem?_withLast e fs f h) hnext hcs
    rw [put_withLast] at hstep
    have hset : f.polled.set done.length (d, some answer) =
        (done ++ [(d, some answer)]) ++ ds.map fun d => (d, none) := by
      rw [hpolled]
      simp
    have hasked : ∀ x ∈ done ++ [(d, some answer)], x.2.isSome = true := by
      intro x hx
      rcases List.mem_append.mp hx with hx | hx
      · exact hdone x hx
      · rw [List.mem_singleton.mp hx]
        rfl
    obtain ⟨cs', polled, hall, hanswers, hrun⟩ :=
      ih { f with polled := f.polled.set done.length (d, some answer) } k
        (fun d' hd' => hds d' (List.mem_cons_of_mem d hd')) _ hasked hset
    refine ⟨cs ++ cs', polled, hall, ?_, (Run.single hstep).trans hrun⟩
    rw [hanswers, List.filterMap_append, List.append_assoc]
    refine congrArg (done.filterMap Flight.answer? ++ ·) ?_
    show _ = (answer.map fun a => (d, a)).toList ++ (askAll e.timeout f.bundle ds k).1
    refine congrArg (· ++ (askAll e.timeout f.bundle ds k).1) ?_
    cases answer <;> rfl

/-- the last flight ends -/
theorem run_finish (f : Flight α) (h : Hub α) (hwaiting : f.waiting = [])
    (hpolled : ∀ x ∈ f.polled, x.2.isSome = true) (houtcome : f.outcome = none) :
    Run (withLast e fs f h) [] (withLast e fs
      { f with outcome := some (f.conclude e.timeout h).1 } (f.conclude e.timeout h).2) := by
  have hstep := Step.finish (getElem?_withLast e fs f h) hwaiting hpolled houtcome
  rw [put_withLast] at hstep
  exact .single hstep

/-- **A scan takes these steps.** `scanBundle` launches a flight, evaluates all patterns, asks all
detectors and ends it, with nothing in between. -/
theorem scanBundle_run (s : System α) (b : Bundle α)
    (hds : ∀ d ∈ s.engine.detectors, ∀ k : Hub α,
      ∃ cs, (d.analyze b k).2.registry = (k.registry.run cs).2) :
    ∃ cs f, Run (s.launch b) cs ⟨(s.engine.scanBundle b).2, s.flights ++ [f]⟩ ∧
      f.outcome = some (s.engine.scanBundle b).1 := by
  let e := s.engine
  let launched := Flight.launch e b
  have hscreen := run_screen e s.flights launched
    (e.hub.takeId.2.write [startNote launched.context b]) (View.Faithful.of_bundle b)
  rw [Hub.write_write, ← skipped_screen] at hscreen
  let screened : Flight α :=
    { launched with waiting := [], screened := launched.waiting.foldl screenOne launched.screened }
  obtain ⟨cs, polled, hall, hanswers, hask⟩ := run_askAll e s.flights e.detectors
    screened (e.hub.started b) hds [] (fun _ hx => nomatch hx) rfl
  let asked : Flight α := { screened with polled }
  have hfinish := run_finish e s.flights asked
    (askAll e.timeout b e.detectors (e.hub.started b)).2 rfl hall rfl
  have hscan : asked.conclude e.timeout (askAll e.timeout b e.detectors (e.hub.started b)).2 =
      scanWith e.timeout e.detectors b e.hub := by
    rw [scanWith_eq]
    unfold Flight.conclude Flight.asked
    rw [hanswers]
    rfl
  rw [hscan] at hfinish
  exact ⟨_, _, (hscreen.trans hask).trans hfinish, rfl⟩

end System

end ContractRisk
