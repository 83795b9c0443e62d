import ContractRisk.Screening
import Mathlib.Data.List.Basic

/-!
# What a screening finds

The shared view of a bundle never changes an answer: as long as it is faithful, every condition gives
the evidence that it gives on its own, and leaves a faithful view behind (`evidence_of_faithful`).
Hence a screening is three functions of one pattern and the bundle,

* `Pattern.match? b p`   the match, if the condition holds;
* `Pattern.fault? b p`   the fault, if the condition breaks;
* `Pattern.passes b p`   neither,

of which always just one applies (`outcome_cases`), and it lists the values of the first two in order
(`found_screen`, `skipped_screen`).
-/

namespace ContractRisk

variable {α : Type} [Scalar α]

/-! ## faithful views -/

/-- a view holds nothing but forms of the text of the bundle -/
structure View.Faithful (v : View α) (b : Bundle α) : Prop where
  bundle : v.bundle = b
  text : ∀ t, v.text? = some t → b.view = .ok t
  lowered : ∀ t, v.lowered? = some t → ∃ u, b.view = .ok u ∧ Text.lower u = t

namespace View.Faithful

variable {v : View α} {b : Bundle α}

theorem of_bundle (b : Bundle α) : (View.of b).Faithful b where
  bundle := rfl
  text _ h := nomatch h
  lowered _ h := nomatch h

/-- the text of a faithful view is that of the bundle -/
theorem text_eq (h : v.Faithful b) :
    v.text.1 = b.view.mapError .noText ∧ v.text.2.Faithful b := by
  unfold View.text
  rw [h.bundle]
  cases ht : v.text? with
  | some t =>
    rw [h.text t ht]
    exact ⟨rfl, h⟩
  | none =>
    cases hb : b.view with
    | error f => exact ⟨rfl, h⟩
    | ok t =>
      have hv : View.Faithful ⟨b, some t, v.lowered?⟩ b :=
        ⟨rfl, fun u hu => hb.trans (congrArg Except.ok (Option.some.inj hu)), h.lowered⟩
      exact ⟨rfl, h.bundle ▸ hv⟩

theorem lowered_eq (h : v.Faithful b) :
    v.lowered.1 = (b.view.mapError .noText).map Text.lower ∧ v.lowered.2.Faithful b := by
  unfold View.lowered
  cases hl : v.lowered? with
  | some t =>
    obtain ⟨u, hu, rfl⟩ := h.lowered t hl
    rw [hu]
    exact ⟨rfl, h⟩
  | none =>
    obtain ⟨htext, hview⟩ := h.text_eq
    rw [show v.text = (b.view.mapError .noText, v.text.2) from Prod.ext htext rfl]
    cases hb : b.view with
    | error f => exact ⟨rfl, hview⟩
    | ok t =>
      refine ⟨rfl, hview.bundle, hview.text, fun u hu => ?_⟩
      exact ⟨t, hb, Option.some.inj hu⟩

end View.Faithful

/-- which faithful view is used makes no difference to the evidence -/
theorem Condition.evidence_of_faithful {v : View α} {b : Bundle α} (h : v.Faithful b)
    (c : Condition α) : (c.evidence v).1 = c.evidenceIn b ∧ (c.evidence v).2.Faithful b := by
  have h0 := View.Faithful.of_bundle b
  cases c with
  | contains t =>
    refine ⟨?_, h.lowered_eq.2⟩
    simp only [Condition.evidenceIn, Condition.evidence, h.lowered_eq.1, h0.lowered_eq.1]
  | structured r =>
    refine ⟨?_, h.text_eq.2⟩
    simp only [Condition.evidenceIn, Condition.evidence, h.text_eq.1, h0.text_eq.1]
  | predicate p =>
    refine ⟨?_, h⟩
    simp only [Condition.evidenceIn, Condition.evidence, h.bundle, h0.bundle]

/-! ## the outcome of one pattern -/

namespace Pattern

/-- the match of a pattern whose condition holds -/
def match? (b : Bundle α) (p : Pattern α) : Option (PatternMatch α) :=
  match p.condition.evidenceIn b with
  | .ok (some evidence) => some ⟨p, evidence⟩
  | _ => none

/-- the fault of a pattern whose condition breaks -/
def fault? (b : Bundle α) (p : Pattern α) : Option (Pattern α × Fault) :=
  match p.condition.evidenceIn b with
  | .error f => some (p, f)
  | _ => none

/-- does the condition hold? -/
def holds (b : Bundle α) (p : Pattern α) : Bool := (p.match? b).isSome

/-- does the condition break? -/
def breaks (b : Bundle α) (p : Pattern α) : Bool := (p.fault? b).isSome

/-- the condition neither holds nor breaks -/
def passes (b : Bundle α) (p : Pattern α) : Prop := p.condition.evidenceIn b = .ok none

variable {b : Bundle α} {p : Pattern α}

/-- a condition holds, breaks or passes, and only one of these -/
theorem outcome_cases (b : Bundle α) (p : Pattern α) :
    (p.holds b = true ∧ p.breaks b = false ∧ ¬ p.passes b) ∨
      (p.holds b = false ∧ p.breaks b = true ∧ ¬ p.passes b) ∨
      (p.holds b = false ∧ p.breaks b = false ∧ p.passes b) := by
  unfold holds breaks match? fault? passes
  rcases p.condition.evidenceIn b with f | _ | evidence <;> simp

theorem match?_pattern {m : PatternMatch α} (h : p.match? b = some m) : m.pattern = p := by
  unfold match? at h
  split at h
  · cases h; rfl
  · cases h

theorem fault?_pattern {e : Pattern α × Fault} (h : p.fault? b = some e) : e.1 = p := by
  unfold fault? at h
  split at h
  · cases h; rfl
  · cases h

end Pattern

/-! ## the screening of many patterns -/

theorem filterMap_cons_toList {β γ : Type} (f : β → Option γ) (x : β) (xs : List β) :
    (x :: xs).filterMap f = (f x).toList ++ xs.filterMap f := by
  rw [List.filterMap_cons]
  cases f x <;> rfl

theorem screenOne_spec {b : Bundle α} {acc : Screening α × View α} (h : acc.2.Faithful b)
    (p : Pattern α) :
    (screenOne acc p).1.found = acc.1.found ++ (p.match? b).toList ∧
      (screenOne acc p).1.skipped = acc.1.skipped ++ (p.fault? b).toList ∧
      (screenOne acc p).2.Faithful b := by
  obtain ⟨he, hv⟩ := Condition.evidence_of_faithful h p.condition
  have hstep : (screenOne acc p).1 = acc.1.add p (p.condition.evidenceIn b) := by
    rw [← he]
    rfl
  rw [hstep]
  unfold Pattern.match? Pattern.fault?
  rcases p.condition.evidenceIn b with f | _ | evidence
  · exact ⟨(List.append_nil _).symm, rfl, hv⟩
  · exact ⟨(List.append_nil _).symm, (List.append_nil _).symm, hv⟩
  · exact ⟨rfl, (List.append_nil _).symm, hv⟩

theorem foldl_screenOne {b : Bundle α} (ps : List (Pattern α)) {acc : Screening α × View α}
    (h : acc.2.Faithful b) :
    (ps.foldl screenOne acc).1.found = acc.1.found ++ ps.filterMap (Pattern.match? b) ∧
      (ps.foldl screenOne acc).1.skipped = acc.1.skipped ++ ps.filterMap (Pattern.fault? b) := by
  induction ps generalizing acc with
  | nil => exact ⟨(List.append_nil _).symm, (List.append_nil _).symm⟩
  | cons p ps ih =>
    obtain ⟨hfound, hskipped, hview⟩ := screenOne_spec h p
    obtain ⟨ih1, ih2⟩ := ih hview
    rw [List.foldl_cons, ih1, ih2, hfound, hskipped, List.append_assoc, List.append_assoc,
      ← filterMap_cons_toList, ← filterMap_cons_toList]
    exact ⟨rfl, rfl⟩

theorem found_screen (ps : List (Pattern α)) (b : Bundle α) :
    (screen ps b).found = ps.filterMap (Pattern.match? b) :=
  (foldl_screenOne ps (View.Faithful.of_bundle b)).1

theorem skipped_screen (ps : List (Pattern α)) (b : Bundle α) :
    (screen ps b).skipped = ps.filterMap (Pattern.fault? b) :=
  (foldl_screenOne ps (View.Faithful.of_bundle b)).2

omit [Scalar α] in
/-- the identifiers of what a partial function finds are those of the patterns where it finds
something -/
private theorem ids_filterMap {γ : Type} {find? : Pattern α → Option γ} {source : γ → Pattern α}
    (h : ∀ p x, find? p = some x → source x = p) (ps : List (Pattern α)) :
    (ps.filterMap find?).map (fun x => (source x).id) =
      (ps.filter fun p => (find? p).isSome).map (·.id) := by
  induction ps with
  | nil => rfl
  | cons p ps ih =>
    rw [filterMap_cons_toList, List.map_append, ih, List.filter_cons]
    cases hp : find? p with
    | none => rfl
    | some x =>
      rw [← h p x hp]
      rfl

theorem matchedIds (ps : List (Pattern α)) (b : Bundle α) :
    (ps.filterMap (Pattern.match? b)).map (·.pattern.id) = (ps.filter (Pattern.holds b)).map (·.id) :=
  ids_filterMap (fun _ _ => Pattern.match?_pattern) ps

theorem skippedIds_screen (ps : List (Pattern α)) (b : Bundle α) :
    (screen ps b).skippedIds = (ps.filter (Pattern.breaks b)).map (·.id) := by
  unfold Screening.skippedIds
  rw [skipped_screen]
  exact ids_filterMap (fun _ _ => Pattern.fault?_pattern) ps

end ContractRisk
