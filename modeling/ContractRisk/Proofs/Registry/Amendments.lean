import ContractRisk.Proofs.Number.Rounding
import ContractRisk.Proofs.Registry.Calls

/-!
# What an update changes

An amendment names some fields of a pattern. `Amends a q p` says that `p` is `q` with the fields that `a` names
settled anew, each by its own check, and with a version that is one higher unless `a` names one. Since a sound
pattern passes its own checks, an update can only fail on what the amendment names (`Amendment.Valid`).

* `define_apply_iff`      the pattern that is defined anew is the amended one;
* `exists_amends_iff`     there is one exactly if all values that are named pass their checks;
* `run_versions`          a version grows by one with every update that succeeds;
* `update_exact`          what an update does and when it is refused, and what updates come to in a run.
-/

namespace ContractRisk

/-! ## versions -/

namespace Version

/-- the whole number that a version is -/
def count? : Version → Option Int
  | whole i => some i
  | flag b => some b.toNat
  | float _ => none

theorem count?_next (n : Version) : n.next.count? = n.count?.map (· + 1) := by
  cases n <;> rfl

/-- the next version of one that is not below one is not below one -/
theorem isBelowOne_next {n : Version} (h : n.isBelowOne = false) : n.next.isBelowOne = false := by
  cases n with
  | whole i =>
    have hi : ¬ i < 1 := of_decide_eq_false h
    exact decide_eq_false (by omega)
  | flag b => cases b <;> rfl
  | float x => exact decide_eq_false (Double.not_lt_one_add_one (of_decide_eq_false h))

end Version

variable {α : Type}

namespace Registry

/-! ## settled fields -/

/-- what the check makes of the value that is named, or else the old value -/
def Settled {β γ : Type} (check : γ → Except PatternFault β) (named : Option γ) (old new : β) : Prop :=
  match named with
  | none => new = old
  | some v => check v = .ok new

/-- a value that is named passes the check -/
def Passes {β γ : Type} (check : γ → Except PatternFault β) (named : Option γ) : Prop :=
  ∀ v, named = some v → ∃ x, check v = .ok x

section
variable {β γ : Type} {check : γ → Except PatternFault β} {named : Option γ} {old : β}

theorem settled_iff {v : γ} (h : check v = .ok old) (new : β) :
    check (named.getD v) = .ok new ↔ Settled check named old new := by
  cases named with
  | none =>
    show check v = .ok new ↔ new = old
    rw [h, Except.ok.injEq, eq_comm]
  | some w => exact Iff.rfl

theorem settled_plain_iff (old new : Value) (named : Option Value) :
    new = named.getD old ↔ Settled .ok named old new := by
  cases named with
  | none => exact Iff.rfl
  | some v =>
    show new = v ↔ Except.ok v = .ok new
    rw [Except.ok.injEq, eq_comm]

theorem Settled.passes {new : β} (h : Settled check named old new) : Passes check named := by
  rintro v rfl
  exact ⟨new, h⟩

theorem Passes.settled (h : Passes check named) (old : β) : ∃ new, Settled check named old new := by
  cases named with
  | none => exact ⟨old, rfl⟩
  | some v => exact h v rfl

end

end Registry

/-! ## amendments -/

namespace Amendment

open Registry (Passes)

/-- the value that an amendment names for a field -/
def value? (a : Amendment α) (name : String) : Option Value := Check.find? name a.fields

/-- all values that are named pass the checks of their fields -/
structure Valid (a : Amendment α) : Prop where
  severity : Passes severityOf (a.value? "severity")
  confidence : Passes checkConfidence (a.value? "confidence")
  category : Passes categoryOf (a.value? "category")
  condition : Passes checkCondition a.condition
  indicators : Passes distinctItems (a.value? "indicators")
  references : Passes itemsOf (a.value? "references")
  version : Passes checkVersion (a.value? "version")

/-- it names another identifier -/
def Renames (a : Amendment α) (id : String) : Prop := ∃ v, a.value? "id" = some v ∧ v ≠ .text id

/-- it names a field that no pattern has -/
def NamesUnknown (a : Amendment α) : Prop := ∃ f ∈ a.fields, f.1 ≠ "id" ∧ f.1 ∉ known

theorem changesId_iff {a : Amendment α} {id : String} : a.changesId id = true ↔ a.Renames id := by
  unfold changesId Renames value?
  cases Check.find? "id" a.fields with
  | none => exact ⟨fun h => (nomatch h), fun ⟨_, h, _⟩ => (nomatch h)⟩
  | some v => cases v <;> simp

theorem unknown_ne_nil_iff {a : Amendment α} : a.unknown ≠ [] ↔ a.NamesUnknown := by
  have hmem (s : String) : s ∈ a.unknown ↔ s ∈ a.fields.map Prod.fst ∧ s ≠ "id" ∧ s ∉ known := by
    unfold unknown sorted
    rw [List.mem_mergeSort, List.mem_filter]
    simp
  rw [Ne, List.eq_nil_iff_forall_not_mem, not_forall_not]
  simp only [hmem, List.mem_map]
  constructor
  · rintro ⟨_, ⟨f, hf, rfl⟩, hname⟩
    exact ⟨f, hf, hname⟩
  · rintro ⟨f, hf, hname⟩
    exact ⟨f.1, ⟨f, hf, rfl⟩, hname⟩

end Amendment

namespace Registry

/-- `p` is `q` with the fields that the amendment names settled anew -/
structure Amends (a : Amendment α) (q p : Pattern α) : Prop where
  id : p.id = q.id
  name : Settled .ok (a.value? "name") q.name p.name
  description : Settled .ok (a.value? "description") q.description p.description
  severity : Settled severityOf (a.value? "severity") q.severity p.severity
  confidence : Settled checkConfidence (a.value? "confidence") q.confidence p.confidence
  category : Settled categoryOf (a.value? "category") q.category p.category
  condition : Settled checkCondition a.condition q.condition p.condition
  indicators : Settled distinctItems (a.value? "indicators") q.indicators p.indicators
  mitigation : Settled .ok (a.value? "mitigation") q.mitigation p.mitigation
  referenceId : Settled .ok (a.value? "reference_id") q.referenceId p.referenceId
  references : Settled itemsOf (a.value? "references") q.references p.references
  version : Settled checkVersion (a.value? "version") q.version.next p.version

section
variable {a : Amendment α} {q : Pattern α}

theorem define_apply_iff (hq : q.Sound) (p : Pattern α) :
    Pattern.define (a.apply q) = .ok p ↔ Amends a q p := by
  have own := Pattern.define_eq_ok_iff.mp hq.again
  have hversion : checkVersion q.version.next.toValue = .ok q.version.next :=
    checkVersion_toValue (Version.isBelowOne_next hq.version)
  rw [Pattern.define_eq_ok_iff]
  constructor
  · intro h
    exact {
      id := Except.ok.inj (h.id.symm.trans own.id)
      name := (settled_plain_iff ..).mp h.name
      description := (settled_plain_iff ..).mp h.description
      severity := (settled_iff own.severity _).mp h.severity
      confidence := (settled_iff own.confidence _).mp h.confidence
      category := (settled_iff own.category _).mp h.category
      condition := (settled_iff own.condition _).mp h.condition
      indicators := (settled_iff own.indicators _).mp h.indicators
      mitigation := (settled_plain_iff ..).mp h.mitigation
      referenceId := (settled_plain_iff ..).mp h.referenceId
      references := (settled_iff own.references _).mp h.references
      version := (settled_iff hversion _).mp h.version }
  · intro h
    exact {
      id := own.id.trans (congrArg Except.ok h.id.symm)
      name := (settled_plain_iff ..).mpr h.name
      description := (settled_plain_iff ..).mpr h.description
      severity := (settled_iff own.severity _).mpr h.severity
      confidence := (settled_iff own.confidence _).mpr h.confidence
      category := (settled_iff own.category _).mpr h.category
      condition := (settled_iff own.condition _).mpr h.condition
      indicators := (settled_iff own.indicators _).mpr h.indicators
      mitigation := (settled_plain_iff ..).mpr h.mitigation
      referenceId := (settled_plain_iff ..).mpr h.referenceId
      references := (settled_iff own.references _).mpr h.references
      version := (settled_iff hversion _).mpr h.version }

/-- only what an amendment names can be refused -/
theorem exists_amends_iff : (∃ p, Amends a q p) ↔ a.Valid := by
  constructor
  · rintro ⟨p, h⟩
    exact ⟨h.severity.passes, h.confidence.passes, h.category.passes, h.condition.passes,
      h.indicators.passes, h.references.passes, h.version.passes⟩
  · intro h
    obtain ⟨severity, hseverity⟩ := h.severity.settled q.severity
    obtain ⟨confidence, hconfidence⟩ := h.confidence.settled q.confidence
    obtain ⟨category, hcategory⟩ := h.category.settled q.category
    obtain ⟨condition, hcondition⟩ := h.condition.settled q.condition
    obtain ⟨indicators, hindicators⟩ := h.indicators.settled q.indicators
    obtain ⟨references, hreferences⟩ := h.references.settled q.references
    obtain ⟨version, hversion⟩ := h.version.settled q.version.next
    exact ⟨{
        id := q.id
        name := (a.value? "name").getD q.name
        description := (a.value? "description").getD q.description
        mitigation := (a.value? "mitigation").getD q.mitigation
        referenceId := (a.value? "reference_id").getD q.referenceId
        severity, confidence, category, condition, indicators, references, version },
      { id := rfl
        name := (settled_plain_iff ..).mp rfl
        description := (settled_plain_iff ..).mp rfl
        severity := hseverity
        confidence := hconfidence
        category := hcategory
        condition := hcondition
        indicators := hindicators
        mitigation := (settled_plain_iff ..).mp rfl
        referenceId := (settled_plain_iff ..).mp rfl
        references := hreferences
        version := hversion }⟩

end

/-! ## one update -/

section
variable {r : Registry α} {id : String} {a : Amendment α}

theorem call_update_of_not_mem (h : id ∉ r.ids) (a : Amendment α) :
    r.call (.update id a) = (.error (.notFound id), r) := by
  rw [call_update, amended, get?_eq_none.mpr h]

variable {q : Pattern α} (hq : r.get? id = some q)
include hq

theorem call_update_of_renames (h : a.Renames id) :
    r.call (.update id a) = (.error .idChange, r) := by
  rw [call_update, amended, hq]
  simp only [Amendment.changesId_iff.mpr h, if_true]

theorem amended_of_not_renames (h : ¬ a.Renames id) : r.amended id a =
    if a.unknown = [] then (Pattern.define (a.apply q)).mapError .pattern
    else .error (.unknownFields a.unknown) := by
  have hid : a.changesId id = false := by simpa using mt Amendment.changesId_iff.mp h
  rw [amended, hq]
  by_cases hunknown : a.unknown = [] <;> simp [hid, hunknown]

theorem call_update_of_unknown (h : ¬ a.Renames id) (hunknown : a.NamesUnknown) :
    r.call (.update id a) = (.error (.unknownFields a.unknown), r) := by
  rw [call_update, amended_of_not_renames hq h, if_neg (Amendment.unknown_ne_nil_iff.mpr hunknown)]

theorem amended_of_known (h : ¬ a.Renames id) (hknown : ¬ a.NamesUnknown) :
    r.amended id a = (Pattern.define (a.apply q)).mapError .pattern := by
  rw [amended_of_not_renames hq h, if_pos (not_not.mp (mt Amendment.unknown_ne_nil_iff.mp hknown))]

theorem call_update_of_not_valid (hsound : q.Sound) (h : ¬ a.Renames id)
    (hknown : ¬ a.NamesUnknown) (hvalid : ¬ a.Valid) :
    ∃ f, r.call (.update id a) = (.error (.pattern f), r) := by
  rw [call_update, amended_of_known hq h hknown]
  cases hd : Pattern.define (a.apply q) with
  | error f => exact ⟨f, rfl⟩
  | ok p => exact absurd (exists_amends_iff.mp ⟨p, (define_apply_iff hsound p).mp hd⟩) hvalid

theorem call_update_of_valid (hsound : q.Sound) (h : ¬ a.Renames id)
    (hknown : ¬ a.NamesUnknown) (hvalid : a.Valid) :
    ∃ p, Amends a q p ∧ r.call (.update id a) = (.ok p, r.replace p) := by
  obtain ⟨p, hp⟩ := (exists_amends_iff (q := q)).mpr hvalid
  refine ⟨p, hp, ?_⟩
  rw [call_update, amended_of_known hq h hknown, (define_apply_iff hsound p).mpr hp]
  rfl

end

/-- a new pattern takes the place of the one with its identifier, and all others stay -/
theorem Reachable.replace_eq {r : Registry α} (hr : r.Reachable) {p q : Pattern α}
    (hq : q ∈ r.patterns) (hid : p.id = q.id) :
    ∃ before after, r.patterns = before ++ q :: after ∧ r.replace p = ⟨before ++ p :: after⟩ := by
  obtain ⟨before, after, hsplit⟩ := List.append_of_mem hq
  refine ⟨before, after, hsplit, ?_⟩
  have hnodup : (before.map (·.id) ++ q.id :: after.map (·.id)).Nodup := by
    simpa [ids, hsplit] using hr.nodup_ids
  have hkeep (ps : List (Pattern α)) (hps : q.id ∉ ps.map (·.id)) :
      (ps.map fun k => if k.id = p.id then p else k) = ps := by
    refine (List.map_congr_left fun k hk => if_neg fun h => hps ?_).trans (List.map_id ps)
    exact List.mem_map.mpr ⟨k, hk, h.trans hid⟩
  obtain ⟨_, hafter, hbefore⟩ := List.nodup_append.mp hnodup
  rw [replace, hsplit, List.map_append, List.map_cons, if_pos hid.symm,
    hkeep before fun h => hbefore _ h _ List.mem_cons_self rfl,
    hkeep after (List.nodup_cons.mp hafter).1]

/-! ## versions over a run -/

/-- the pattern that was first there under an identifier -/
def registered? (r : Registry α) (log : Log α) (id : String) : Option (Pattern α) :=
  (r.get? id).or ((added log).find? fun p => p.id = id)

/-- how many updates of an identifier have succeeded -/
def updates (log : Log α) (id : String) : Nat := log.countP fun
  | (.update i _, .ok _) => i = id
  | _ => false

/-- a call that leaves versions to the registry -/
def Call.KeepsCount : Call α → Prop
  | .register _ _ => True
  | .update _ a => a.value? "version" = none

theorem updates_cons (e : Call α × Outcome α) (log : Log α) (id : String) :
    updates (e :: log) id = updates log id + updates [e] id := by
  unfold updates
  rw [List.countP_cons, List.countP_singleton]

theorem Amends.count?_version {a : Amendment α} {q p : Pattern α} (h : Amends a q p)
    (ha : a.value? "version" = none) : p.version.count? = q.version.count?.map (· + 1) := by
  have hversion := h.version
  rw [ha] at hversion
  rw [show p.version = q.version.next from hversion, Version.count?_next]

/-- what one call does to the first pattern under an identifier: a call is counted exactly if it has
written a new version -/
theorem registered?_of_effect {r r' : Registry α} (hr : r.Reachable) {c : Call α} {out : Outcome α}
    (h : Effect r c out r') (hc : c.KeepsCount) (log : Log α) (id : String) :
    (r'.registered? log id).map (·.version.count?) =
      (r.registered? ((c, out) :: log) id).map fun o =>
        o.version.count?.map (· + (updates [(c, out)] id : Int)) := by
  have hsame (hlog : r'.registered? log id = r.registered? ((c, out) :: log) id)
      (hcount : updates [(c, out)] id = 0) : (r'.registered? log id).map (·.version.count?) =
        (r.registered? ((c, out) :: log) id).map fun o =>
          o.version.count?.map (· + (updates [(c, out)] id : Int)) := by
    simp [hlog, hcount]
  cases h with
  | @added p _ hnew =>
    -- the identifier was free, so that the pattern that is added is the first one under it
    refine hsame ?_ rfl
    unfold registered?
    rw [get?_append hnew, show added ((Call.register p _, Except.ok p) :: log) = p :: added log from rfl,
      List.find?_cons]
    by_cases hid : p.id = id
    · subst hid
      simp [get?_eq_none.mpr hnew]
    · simp [hid]
  | @changed i a q p hq _ _ hd hid =>
    have hamends : Amends a q p := by
      obtain ⟨d, hq⟩ := hr.defined q (get?_eq_some hq).1
      exact (define_apply_iff hq.sound p).mp hd
    unfold registered?
    rw [get?_replace (hid ▸ mem_ids_of_get? hq),
      show added ((Call.update i a, Except.ok p) :: log) = added log from rfl]
    by_cases hsome : p.id = id
    · obtain rfl : i = id := hid.symm.trans hsome
      simp [hsome, hq, updates, hamends.count?_version hc]
    · have hne : i ≠ id := fun h => hsome (hid.trans h)
      simp [hsome, updates, hne]
  | _ => exact hsame rfl rfl

/-- a version has grown by one with every update that succeeded -/
theorem run_versions {r : Registry α} (hr : r.Reachable) (cs : List (Call α))
    (hcs : ∀ c ∈ cs, c.KeepsCount) (id : String) :
    ((r.run cs).2.get? id).map (·.version.count?) =
      (r.registered? (r.run cs).1 id).map fun o =>
        o.version.count?.map (· + (updates (r.run cs).1 id : Int)) := by
  induction cs generalizing r with
  | nil => simp [run, registered?, added, updates]
  | cons c cs ih =>
    -- the rest of the run starts from what the first call has left, and the counts add up
    have hstep := registered?_of_effect hr (call_effect r c) (hcs c List.mem_cons_self)
      ((r.call c).2.run cs).1 id
    calc (((r.call c).2.run cs).2.get? id).map (·.version.count?)
      _ = (((r.call c).2.registered? ((r.call c).2.run cs).1 id).map (·.version.count?)).map
            (Option.map (· + (updates ((r.call c).2.run cs).1 id : Int))) := by
          rw [ih (hr.call c) fun c' h => hcs c' (List.mem_cons_of_mem c h), Option.map_map]
          rfl
      _ = _ := by
          have hcount : updates (r.run (c :: cs)).1 id =
              updates ((r.call c).2.run cs).1 id + updates [(c, (r.call c).1)] id :=
            updates_cons (c, (r.call c).1) ((r.call c).2.run cs).1 id
          rw [hstep, Option.map_map, hcount]
          refine congrFun (congrArg Option.map (funext fun o => ?_)) _
          show (o.version.count?.map _).map _ = _
          rw [Option.map_map]
          refine congrFun (congrArg Option.map (funext fun n => ?_)) _
          show n + (_ : Int) + (_ : Int) = n + (_ : Int)
          omega

/-- **What an update does.** One of an identifier that is not registered is refused as such, whatever it
names. Any other one is refused, and changes nothing, on a new identifier, on a field that no pattern has,
or on a value that does not pass its check, in this order. If none of these is named, the amended pattern
takes the place of the old one among patterns that stay as they are. Hence, in a run that names no
versions, a version that starts as a whole number counts the updates. -/
theorem update_exact {r : Registry α} (hr : r.Reachable) :
    (∀ id a,
      ((∃ i, (r.call (.update id a)).1 = .error (.notFound i)) ↔ id ∉ r.ids) ∧
      (id ∉ r.ids → r.call (.update id a) = (.error (.notFound id), r)) ∧
      ∀ q, r.get? id = some q →
        (a.Renames id → r.call (.update id a) = (.error .idChange, r)) ∧
        (¬ a.Renames id → a.NamesUnknown →
          r.call (.update id a) = (.error (.unknownFields a.unknown), r)) ∧
        (¬ a.Renames id → ¬ a.NamesUnknown → ¬ a.Valid →
          ∃ f, r.call (.update id a) = (.error (.pattern f), r)) ∧
        (¬ a.Renames id → ¬ a.NamesUnknown → a.Valid →
          ∃ p before after, Amends a q p ∧ r.patterns = before ++ q :: after ∧
            r.call (.update id a) = (.ok p, ⟨before ++ p :: after⟩))) ∧
    ∀ cs : List (Call α), (∀ id a, .update id a ∈ cs → a.value? "version" = none) →
      ∀ p ∈ (r.run cs).2.patterns, ∃ o, r.registered? (r.run cs).1 p.id = some o ∧
        ∀ n, o.version.count? = some n →
          p.version.count? = some (n + updates (r.run cs).1 p.id) := by
  refine ⟨fun id a => ⟨⟨?_, fun h => ⟨id, ?_⟩⟩, fun h => call_update_of_not_mem h a, fun q hq => ?_⟩,
    fun cs hcs p hp => ?_⟩
  · rintro ⟨i, hi⟩
    have heffect := call_effect r (.update id a)
    rw [hi] at heffect
    generalize (r.call (.update id a)).2 = r' at heffect
    cases heffect
    assumption
  · rw [call_update_of_not_mem h]
  · obtain ⟨hmem, rfl⟩ := get?_eq_some hq
    obtain ⟨d, hd⟩ := hr.defined q hmem
    refine ⟨call_update_of_renames hq, call_update_of_unknown hq,
      call_update_of_not_valid hq hd.sound, fun h hknown hvalid => ?_⟩
    obtain ⟨p, hp, hcall⟩ := call_update_of_valid hq hd.sound h hknown hvalid
    obtain ⟨before, after, hsplit, hreplace⟩ := hr.replace_eq hmem hp.id
    exact ⟨p, before, after, hp, hsplit, by rw [hcall, hreplace]⟩
  · have hcounts : ∀ c ∈ cs, c.KeepsCount := by
      intro c hc
      cases c with
      | register p hp => trivial
      | update id a => exact hcs id a hc
    have hversions := run_versions hr cs hcounts p.id
    rw [(hr.run cs).get?_self hp, Option.map_some] at hversions
    obtain ⟨o, ho, hcount⟩ := Option.map_eq_some_iff.mp hversions.symm
    refine ⟨o, ho, fun n hn => ?_⟩
    rw [← hcount, hn, Option.map_some]

/-- a new severity and a new confidence, as an update of the catalog's third entry -/
def sampleAmendment : Amendment Float :=
  ⟨[("severity", .text "critical"), ("confidence", .int 91)], none⟩

/-- this update, one that is refused for its confidence, and one with an indicator given twice -/
def sampleUpdates : List (Call Float) :=
  [.update "HP003" sampleAmendment, .update "HP003" ⟨[("confidence", .int 150)], none⟩,
    .update "HP003" ⟨[("indicators", .list [.text "trap", .text "trap"])], none⟩]

theorem update_exact_catalog :
    let r : Registry Float := ⟨Catalog.patterns⟩
    let q := Catalog.patterns[2]
    (∃ p before after, Amends sampleAmendment q p ∧ Catalog.patterns = before ++ q :: after ∧
      r.call (.update "HP003" sampleAmendment) = (.ok p, ⟨before ++ p :: after⟩)) ∧
    ∀ p ∈ (r.run sampleUpdates).2.patterns, p.id = "HP003" → p.version.count? = some 3 := by
  intro r q
  obtain ⟨hcalls, hruns⟩ := update_exact (Catalog.reachable (α := Float))
  constructor
  · obtain ⟨_, _, hq⟩ := hcalls "HP003" sampleAmendment
    have hsame : ¬ sampleAmendment.Renames "HP003" := fun ⟨v, hv, _⟩ => nomatch hv
    have hknown : ¬ sampleAmendment.NamesUnknown := by
      unfold Amendment.NamesUnknown
      decide
    refine (hq q rfl).2.2.2 hsame hknown {
      severity := fun v hv => ⟨.critical, by cases hv; rfl⟩
      confidence := fun v hv => ⟨91, by cases hv; rfl⟩
      category := fun v hv => nomatch hv
      condition := fun v hv => nomatch hv
      indicators := fun v hv => nomatch hv
      references := fun v hv => nomatch hv
      version := fun v hv => nomatch hv }
  · have hnames : ∀ id a, .update id a ∈ sampleUpdates → a.value? "version" = none := by
      intro id a h
      simp only [sampleUpdates, List.mem_cons, List.not_mem_nil, or_false, Call.update.injEq] at h
      obtain ⟨_, rfl⟩ | ⟨_, rfl⟩ | ⟨_, rfl⟩ := h <;> rfl
    intro p hp hid
    obtain ⟨o, ho, hcount⟩ := hruns sampleUpdates hnames p hp
    have hupdates : updates (r.run sampleUpdates).1 "HP003" = 2 := by decide +kernel
    have hone : (r.registered? (r.run sampleUpdates).1 "HP003").map (·.version.count?) =
        some (some 1) := by decide +kernel
    rw [hid] at ho hcount
    rw [ho, Option.map_some, Option.some_inj] at hone
    rw [hcount 1 hone, hupdates]
    rfl

end Registry

end ContractRisk
